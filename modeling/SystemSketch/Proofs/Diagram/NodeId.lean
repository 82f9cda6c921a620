import Mathlib.Data.List.Range
import SystemSketch.Proofs.Diagram.SafeId
import SystemSketch.Proofs.Keyed

/-!
# Laws of node ids

The search for an unused id always finds one, so different identifiers get different ids, and an id
that is given once is never changed. What is given is a safe id again, whatever number is put behind
the safe id that an identifier asks for.

## Main definitions

* `NodeIds.Sound` — the invariant of the ids given so far.
* `NodeIds.Derived` — every id given so far was searched for from its safe id.
* `NodeIds.Avoids` — no id given so far is a reserved one.

## Main results

* `isSafe_firstUnused`, `firstUnused_notMem` — what is given is safe and unused.
* `NodeIds.request_cases` — what asking for an id can do.
* `NodeIds.requestAll_invariant` — what every request keeps holds after a whole list of identifiers.
* `NodeIds.requestAll_fst` — the ids in the order of asking.
* `NodeIds.idOf_requestAll_of_prefix` — the first identifiers keep their ids.
* `NodeIds.Sound.idOf_inj` — different identifiers have different ids.
* `NodeIds.requestAll_unique` — the ids that are given are unique, safe and stable.
-/

namespace SystemSketch.Diagram

open Text

/-! ### Numbers behind a name -/

/-- The characters of a numbered id. -/
theorem toList_numbered (base : String) (k : Nat) :
    (numbered base k).toList = base.toList ++ '_' :: Nat.toDigits 10 k := by
  rw [numbered, String.toList_append, String.toList_append, List.append_assoc]
  exact congrArg (base.toList ++ ·) (congrArg ('_' :: ·) Nat.toList_repr)

/-- A numbered safe id is safe. -/
theorem isSafe_numbered {base : String} (h : IsSafe base) (k : Nat) : IsSafe (numbered base k) := by
  have hdigit : ∀ c ∈ Nat.toDigits 10 k, c.isDigit = true := fun c hc =>
    Nat.isDigit_of_mem_toDigits (by decide) (by decide) hc
  have hlist := toList_numbered base k
  refine ⟨⟨?_, fun c hc => ?_⟩, ?_, fun hlast => ?_, ?_⟩
  · rw [hlist]
    exact List.append_ne_nil_of_left_ne_nil h.isName.ne_nil _
  · rw [hlist, List.mem_append, List.mem_cons] at hc
    rcases hc with hbase | rfl | hnum
    · exact h.isName.plain c hbase
    · rfl
    · simp [isPlainWord, Char.isAlphanum, hdigit c hnum]
  · rw [hlist, List.head?_append_of_ne_nil _ h.isName.ne_nil]
    exact h.head?_ne
  · -- the last character is a digit
    rw [hlist, List.append_cons, List.getLast?_append_of_ne_nil _ Nat.toDigits_ne_nil] at hlast
    exact absurd (hdigit '_' (List.mem_of_getLast? hlast)) (by decide)
  · rw [hlist]
    exact isKeyword_eq_false_of_mem (List.mem_append_right _ List.mem_cons_self)

/-- Different numbers give different ids. -/
theorem numbered_injective (base : String) : Function.Injective (numbered base) := by
  intro j k h
  have hlist := congrArg String.toList h
  rw [toList_numbered, toList_numbered, List.append_cancel_left_eq, List.cons.injEq] at hlist
  have hvalue := congrArg (Nat.ofDigitChars 10 · 0) hlist.2
  simpa only [Nat.ofDigitChars_ten_toDigits] using hvalue

/-! ### The search for an unused id -/

/-- One of the first `used.length + 1` numbers is unused, since their ids differ. -/
theorem exists_numbered_unused (used : List String) (base : String) :
    ∃ k, (List.range' 2 (used.length + 1)).find? (fun k => !used.contains (numbered base k)) =
      some k := by
  rw [← Option.isSome_iff_exists, Option.isSome_iff_ne_none]
  intro hnone
  have hused : ∀ id ∈ (List.range' 2 (used.length + 1)).map (numbered base), id ∈ used := by
    intro id hid
    obtain ⟨k, hk, rfl⟩ := List.mem_map.mp hid
    simpa using List.find?_eq_none.mp hnone k hk
  have hnodup : ((List.range' 2 (used.length + 1)).map (numbered base)).Nodup :=
    (List.nodup_range' 1 Nat.one_pos).map (numbered_injective base)
  have hlength := hnodup.length_le_of_subset hused
  rw [List.length_map, List.length_range'] at hlength
  omega

/-- **What the search gives**: the base itself if it is unused, and otherwise the base with the
least number behind it that makes an unused id. -/
theorem firstUnused_cases (used : List String) (base : String) :
    (base ∉ used ∧ firstUnused used base = base) ∨
      (base ∈ used ∧ ∃ k, 2 ≤ k ∧ numbered base k ∉ used ∧
        (∀ j, 2 ≤ j → j < k → numbered base j ∈ used) ∧
        firstUnused used base = numbered base k) := by
  rw [firstUnused]
  split
  · next hbase =>
    obtain ⟨k, hk⟩ := exists_numbered_unused used base
    obtain ⟨hunused, hrange, hleast⟩ := List.find?_range'_eq_some.mp hk
    refine Or.inr ⟨List.contains_iff_mem.mp hbase, k, (List.mem_range'_1.mp hrange).1,
      by simpa using hunused, fun j hj hlt => by simpa using hleast j hj hlt, by rw [hk]⟩
  · next hbase => exact Or.inl ⟨by simpa using hbase, rfl⟩

/-- **The id that is given is unused.** -/
theorem firstUnused_notMem (used : List String) (base : String) : firstUnused used base ∉ used := by
  rcases firstUnused_cases used base with ⟨hunused, heq⟩ | ⟨-, k, -, hunused, -, heq⟩
  · rwa [heq]
  · rwa [heq]

/-- The id that is given to a safe id is safe. -/
theorem isSafe_firstUnused (used : List String) {base : String} (h : IsSafe base) :
    IsSafe (firstUnused used base) := by
  rcases firstUnused_cases used base with ⟨-, heq⟩ | ⟨-, k, -, -, -, heq⟩
  · rwa [heq]
  · rw [heq]
    exact isSafe_numbered h k

/-! ### Asking for ids -/

namespace NodeIds

/-- The ids given so far are names, they differ, and none of them can be given again. -/
structure Sound (ids : NodeIds) : Prop where
  isName : ∀ {identifier id}, ids.assigned.value? identifier = some id → IsName id
  used : ∀ {identifier id}, ids.assigned.value? identifier = some id → id ∈ ids.used
  inj : ∀ {x y id}, ids.assigned.value? x = some id → ids.assigned.value? y = some id → x = y

/-- **What asking for an id can do**: it finds the id that is given already, or it gives an
unused one and leaves all others as they are. -/
theorem request_cases (identifier : String) (ids : NodeIds) :
    (∃ id, ids.assigned.value? identifier = some id ∧ ids.request identifier = (id, ids)) ∨
      ∃ id, ids.assigned.value? identifier = none ∧ id ∉ ids.used ∧ IsName id ∧
        ids.request identifier = (id, ⟨ids.assigned.set identifier id, ids.used ++ [id]⟩) := by
  cases h : ids.assigned.value? identifier with
  | some id => exact Or.inl ⟨id, rfl, by rw [request, h]⟩
  | none =>
    refine Or.inr ⟨firstUnused ids.used (safeId identifier), rfl, firstUnused_notMem _ _,
      (isSafe_firstUnused _ (isSafe_safeId identifier)).isName, ?_⟩
    rw [request, h]

/-- Before any identifier has an id, nothing can be wrong. -/
theorem sound_reserving (reserved : List String) : (reserving reserved).Sound :=
  ⟨fun h => (Option.some_ne_none _ h.symm).elim, fun h => (Option.some_ne_none _ h.symm).elim,
    fun h => (Option.some_ne_none _ h.symm).elim⟩

/-- Asking for an id keeps the invariant. -/
theorem Sound.request {ids : NodeIds} (h : ids.Sound) (identifier : String) :
    (ids.request identifier).2.Sound := by
  rcases request_cases identifier ids with ⟨id, -, heq⟩ | ⟨id, hnone, hunused, hname, heq⟩
  · rwa [heq]
  · rw [heq]
    have hnew : ∀ {x y}, (ids.assigned.set identifier id).value? x = some y →
        (x = identifier ∧ y = id) ∨ (x ≠ identifier ∧ ids.assigned.value? x = some y) := by
      intro x y hx
      rw [Table.value?_set] at hx
      split at hx
      · next hself => exact Or.inl ⟨hself, (Option.some.inj hx).symm⟩
      · next hother => exact Or.inr ⟨hother, hx⟩
    refine ⟨fun hx => ?_, fun hx => ?_, fun hx hy => ?_⟩
    · rcases hnew hx with ⟨-, rfl⟩ | ⟨-, hold⟩
      · exact hname
      · exact h.isName hold
    · rcases hnew hx with ⟨-, rfl⟩ | ⟨-, hold⟩
      · exact List.mem_append_right _ (List.mem_singleton_self _)
      · exact List.mem_append_left _ (h.used hold)
    · rcases hnew hx with ⟨rfl, rfl⟩ | ⟨-, hxold⟩
      · rcases hnew hy with ⟨rfl, -⟩ | ⟨-, hyold⟩
        · rfl
        · exact absurd (h.used hyold) hunused
      · rcases hnew hy with ⟨-, rfl⟩ | ⟨-, hyold⟩
        · exact absurd (h.used hxold) hunused
        · exact h.inj hxold hyold

/-- Every id given so far was **searched for** from the safe id of its identifier. -/
def Derived (ids : NodeIds) : Prop :=
  ∀ identifier id, ids.assigned.value? identifier = some id →
    ∃ used, id = firstUnused used (safeId identifier)

/-- Before any identifier has an id, none needs to have been searched for. -/
theorem derived_reserving (reserved : List String) : (reserving reserved).Derived :=
  fun _ _ h => (Option.some_ne_none _ h.symm).elim

/-- Asking for an id searches for it from the safe id. -/
theorem Derived.request {ids : NodeIds} (h : ids.Derived) (identifier : String) :
    (ids.request identifier).2.Derived := by
  intro x id hx
  rw [NodeIds.request] at hx
  split at hx
  · exact h x id hx
  · rw [Table.value?_set] at hx
    split at hx
    · next hself => exact ⟨ids.used, by rw [hself, Option.some.inj hx]⟩
    · exact h x id hx

/-- The id that is asked for is noted. -/
theorem value?_request_self (identifier : String) (ids : NodeIds) :
    (ids.request identifier).2.assigned.value? identifier = some (ids.request identifier).1 := by
  rcases request_cases identifier ids with ⟨id, hsome, heq⟩ | ⟨id, -, -, -, heq⟩
  · rw [heq, hsome]
  · rw [heq, Table.value?_set, if_pos rfl]

/-- **An id that is given is never changed.** -/
theorem value?_request_of_some {ids : NodeIds} {x id : String} (identifier : String)
    (h : ids.assigned.value? x = some id) :
    (ids.request identifier).2.assigned.value? x = some id := by
  rcases request_cases identifier ids with ⟨_, -, heq⟩ | ⟨new, hnone, -, -, heq⟩
  · rw [heq, h]
  · have hne : x ≠ identifier := by
      rintro rfl
      rw [h] at hnone
      exact Option.some_ne_none id hnone
    rw [heq, Table.value?_set, if_neg hne, h]

/-- The id of an identifier that has one. -/
theorem idOf_of_some {ids : NodeIds} {identifier id : String}
    (h : ids.assigned.value? identifier = some id) : ids.idOf identifier = id := by
  rw [idOf, request, h]

/-- Every id is a name, also one that is given only now. -/
theorem Sound.isName_idOf {ids : NodeIds} (h : ids.Sound) (identifier : String) :
    IsName (ids.idOf identifier) :=
  (h.request identifier).isName (value?_request_self identifier ids)

/-- Every id is safe, also one that is given only now. -/
theorem Derived.isSafe_idOf {ids : NodeIds} (h : ids.Derived) (identifier : String) :
    IsSafe (ids.idOf identifier) := by
  obtain ⟨used, hid⟩ := h.request identifier _ _ (value?_request_self identifier ids)
  rw [idOf, hid]
  exact isSafe_firstUnused used (isSafe_safeId identifier)

/-- **No id is a keyword**, also none that is given only now. -/
theorem Derived.isKeyword_idOf {ids : NodeIds} (h : ids.Derived) (identifier : String) :
    isKeyword (ids.idOf identifier).toList = false :=
  (h.isSafe_idOf identifier).not_keyword

/-- The ids given so far **avoid** the reserved ones, which cannot be given any more. -/
structure Avoids (ids : NodeIds) (reserved : List String) : Prop where
  used : ∀ id ∈ reserved, id ∈ ids.used
  notMem : ∀ {identifier id}, ids.assigned.value? identifier = some id → id ∉ reserved

/-- Before any identifier has an id, all that is reserved is avoided. -/
theorem avoids_reserving (reserved : List String) : (reserving reserved).Avoids reserved :=
  ⟨fun _ h => h, fun h => (Option.some_ne_none _ h.symm).elim⟩

/-- Asking for an id avoids what is reserved: no id is given that is used. -/
theorem Avoids.request {ids : NodeIds} {reserved : List String} (h : ids.Avoids reserved)
    (identifier : String) : (ids.request identifier).2.Avoids reserved := by
  rcases request_cases identifier ids with ⟨id, -, heq⟩ | ⟨id, -, hunused, -, heq⟩
  · rwa [heq]
  · rw [heq]
    refine ⟨fun r hr => List.mem_append_left _ (h.used r hr), fun {x y} hx hreserved => ?_⟩
    rw [Table.value?_set] at hx
    split at hx
    · obtain rfl := Option.some.inj hx
      exact hunused (h.used _ hreserved)
    · exact h.notMem hx hreserved

/-- No id is a reserved one, also none that is given only now. -/
theorem Avoids.idOf_notMem {ids : NodeIds} {reserved : List String} (h : ids.Avoids reserved)
    (identifier : String) : ids.idOf identifier ∉ reserved :=
  (h.request identifier).notMem (value?_request_self identifier ids)

/-! ### Asking for several ids -/

/-- The first identifier is asked for before the others. -/
theorem requestAll_cons (identifier : String) (rest : List String) (ids : NodeIds) :
    ids.requestAll (identifier :: rest) =
      ((ids.request identifier).1 :: ((ids.request identifier).2.requestAll rest).1,
        ((ids.request identifier).2.requestAll rest).2) :=
  rfl

/-- **What every request keeps** holds after asking for several ids. -/
theorem requestAll_invariant {P : NodeIds → Prop}
    (hstep : ∀ ids identifier, P ids → P (ids.request identifier).2) {ids : NodeIds} (h : P ids)
    (identifiers : List String) : P (ids.requestAll identifiers).2 := by
  induction identifiers generalizing ids with
  | nil => exact h
  | cons identifier rest ih => exact ih (hstep ids identifier h)

/-- Asking for several ids keeps the invariant. -/
theorem Sound.requestAll {ids : NodeIds} (h : ids.Sound) (identifiers : List String) :
    (ids.requestAll identifiers).2.Sound :=
  requestAll_invariant (fun _ identifier hids => hids.request identifier) h identifiers

/-- Asking for several ids searches for each from its safe id. -/
theorem Derived.requestAll {ids : NodeIds} (h : ids.Derived) (identifiers : List String) :
    (ids.requestAll identifiers).2.Derived :=
  requestAll_invariant (fun _ identifier hids => hids.request identifier) h identifiers

/-- Asking for several ids avoids what is reserved. -/
theorem Avoids.requestAll {ids : NodeIds} {reserved : List String} (h : ids.Avoids reserved)
    (identifiers : List String) : (ids.requestAll identifiers).2.Avoids reserved :=
  requestAll_invariant (P := fun ids => ids.Avoids reserved)
    (fun _ identifier hids => hids.request identifier) h identifiers

/-- Asking for several ids changes none that is given. -/
theorem value?_requestAll_of_some {ids : NodeIds} {x id : String} (identifiers : List String)
    (h : ids.assigned.value? x = some id) :
    (ids.requestAll identifiers).2.assigned.value? x = some id :=
  requestAll_invariant (P := fun ids => ids.assigned.value? x = some id)
    (fun _ identifier hids => value?_request_of_some identifier hids) h identifiers

/-- Every identifier that is asked for has its id afterwards. -/
theorem value?_requestAll_of_mem {identifiers : List String} {x : String} (ids : NodeIds)
    (hx : x ∈ identifiers) :
    ∃ id, (ids.requestAll identifiers).2.assigned.value? x = some id := by
  induction identifiers generalizing ids with
  | nil => exact absurd hx List.not_mem_nil
  | cons identifier rest ih =>
    rcases List.mem_cons.mp hx with rfl | hrest
    · exact ⟨_, value?_requestAll_of_some rest (value?_request_self x ids)⟩
    · exact ih (ids.request identifier).2 hrest

/-- **The ids in the order of asking** are those that are noted at the end. -/
theorem requestAll_fst (identifiers : List String) (ids : NodeIds) :
    (ids.requestAll identifiers).1 = identifiers.map (ids.requestAll identifiers).2.idOf := by
  induction identifiers generalizing ids with
  | nil => rfl
  | cons identifier rest ih =>
    have hfirst := value?_requestAll_of_some rest (value?_request_self identifier ids)
    rw [requestAll_cons, List.map_cons, ih (ids.request identifier).2, idOf_of_some hfirst]

/-- Identifiers in two parts are asked for part by part. -/
theorem requestAll_append (identifiers more : List String) (ids : NodeIds) :
    (ids.requestAll (identifiers ++ more)).2 =
      ((ids.requestAll identifiers).2.requestAll more).2 := by
  induction identifiers generalizing ids with
  | nil => rfl
  | cons identifier rest ih => exact ih (ids.request identifier).2

/-- **The first identifiers keep their ids** when more are asked for. -/
theorem idOf_requestAll_of_prefix {identifiers all : List String} (h : identifiers <+: all)
    (ids : NodeIds) {x : String} (hx : x ∈ identifiers) :
    (ids.requestAll all).2.idOf x = (ids.requestAll identifiers).2.idOf x := by
  obtain ⟨more, rfl⟩ := h
  obtain ⟨id, hid⟩ := value?_requestAll_of_mem ids hx
  rw [requestAll_append, idOf_of_some hid, idOf_of_some (value?_requestAll_of_some more hid)]

/-- **Different identifiers** that were asked for have different ids. -/
theorem Sound.idOf_inj {ids : NodeIds} (h : ids.Sound) {identifiers : List String} {x y : String}
    (hx : x ∈ identifiers) (hy : y ∈ identifiers)
    (heq : (ids.requestAll identifiers).2.idOf x = (ids.requestAll identifiers).2.idOf y) :
    x = y := by
  obtain ⟨idx, hidx⟩ := value?_requestAll_of_mem ids hx
  obtain ⟨idy, hidy⟩ := value?_requestAll_of_mem ids hy
  rw [idOf_of_some hidx, idOf_of_some hidy] at heq
  subst heq
  exact (h.requestAll identifiers).inj hidx hidy

/-- **The ids that are given are unique, safe and stable.** Whatever ids are reserved and whatever
identifiers are asked for, one after the other, each of them gets an id. Two requests get the same
id exactly if they ask for the same identifier, and every id that is given is safe and none of the
reserved ones. -/
theorem requestAll_unique (reserved identifiers : List String) :
    let given : List String × NodeIds := (reserving reserved).requestAll identifiers
    given.1.length = identifiers.length ∧
      (∀ j k : Nat, given.1[j]? = given.1[k]? ↔ identifiers[j]? = identifiers[k]?) ∧
      ∀ id ∈ given.1, id ∉ reserved ∧ IsSafe id := by
  intro given
  have hids : given.1 = identifiers.map given.2.idOf :=
    requestAll_fst identifiers (reserving reserved)
  refine ⟨?_, fun j k => ⟨fun h => ?_, fun h => ?_⟩, fun id hid => ?_⟩
  · rw [hids, List.length_map]
  · rw [hids, List.getElem?_map, List.getElem?_map] at h
    cases hj : identifiers[j]? with
    | none =>
      rw [hj, Option.map_none, eq_comm, Option.map_eq_none_iff] at h
      exact h.symm
    | some x =>
      rw [hj, Option.map_some, eq_comm, Option.map_eq_some_iff] at h
      obtain ⟨y, hk, hsame⟩ := h
      have hyx := (sound_reserving reserved).idOf_inj (List.mem_of_getElem? hk)
        (List.mem_of_getElem? hj) hsame
      rw [hk, hyx]
  · rw [hids, List.getElem?_map, List.getElem?_map, h]
  · rw [hids] at hid
    obtain ⟨identifier, -, rfl⟩ := List.mem_map.mp hid
    exact ⟨((avoids_reserving reserved).requestAll identifiers).idOf_notMem identifier,
      ((derived_reserving reserved).requestAll identifiers).isSafe_idOf identifier⟩

/-- Identifiers that ask for a reserved id, for each other's ids, for a keyword and for nothing. -/
theorem requestAll_unique_contested :
    let given : List String × NodeIds := (reserving ["A", "cluster_user"]).requestAll
      ["A!", "A", "A_2", "End", "§", "A!"]
    given.1 = ["A_2", "A_3", "A_2_2", "n_End", "node", "A_2"] ∧ given.1[0]? = given.1[5]? ∧
      "A_2_2" ∉ ["A", "cluster_user"] ∧ IsSafe "A_2_2" := by
  intro given
  have hgiven : given.1 = ["A_2", "A_3", "A_2_2", "n_End", "node", "A_2"] := by decide +kernel
  obtain ⟨-, hsame, hsafe⟩ := requestAll_unique ["A", "cluster_user"]
    ["A!", "A", "A_2", "End", "§", "A!"]
  have hmem : "A_2_2" ∈ given.1 := by
    rw [hgiven]
    decide
  exact ⟨hgiven, (hsame 0 5).mpr rfl, hsafe "A_2_2" hmem⟩

end NodeIds

end SystemSketch.Diagram
