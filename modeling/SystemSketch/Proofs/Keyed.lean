import Mathlib.Data.List.Nodup
import SystemSketch.Keyed

/-!
# Laws of lists with keys

What `Keyed.insert` does to the list, to its keys and to what is found in it. A value of a new
key goes to the end, and a value of a known key changes nothing but its own place, so every
question that does not concern the key has the same answer before and after.

## Main definitions

* `Table.mapValues` — a table with a function applied to everything that is noted.

## Main results

* `Keyed.get?_eq_some_iff` — a value is found exactly when it is in the list.
* `Keyed.filter_key` — it is the only one of its key.
* `Keyed.toList_insert_of_notMem` — a new key goes to the end.
* `Keyed.filter_insert_of_irrelevant` — a selection that passes over both the new value and the
  one it replaces stays as it is.
* `Keyed.toList_foldl_of_new` — values of pairwise different new keys are kept in the order in
  which they are entered.
* `Table.value?_eq_some_iff`, `Table.value?_set`, `Table.value?_setNew` — what is noted for a key.
* `Table.mapValues_insert`, `Table.mapValues_setNew` — what is noted goes through the function.
* `Table.value?_foldl_set` — the notes of one table on top of those of another.
* `Table.toList_foldl_set`, `Table.toList_foldl_extend` — notes for pairwise different keys.
-/

namespace SystemSketch

namespace Keyed

variable {κ ν : Type} [DecidableEq κ] {key : ν → κ}

/-! ### What is found -/

/-- A value is found under its key exactly when it is in the list. -/
theorem get?_eq_some_iff {t : Keyed key} {k : κ} {v : ν} :
    t.get? k = some v ↔ v ∈ t.toList ∧ key v = k := by
  constructor
  · intro h
    have hv := List.find?_some h
    exact ⟨List.mem_of_find?_eq_some h, by simpa using hv⟩
  · rintro ⟨hmem, rfl⟩
    obtain ⟨w, hw⟩ : ∃ w, t.get? (key v) = some w := by
      rw [get?, ← Option.isSome_iff_exists, List.find?_isSome]
      exact ⟨v, hmem, by simp⟩
    have hwmem := List.mem_of_find?_eq_some hw
    have hwkey : key w = key v := by simpa using List.find?_some hw
    rw [hw, List.inj_on_of_nodup_map t.nodup hwmem hmem hwkey]

/-- Nothing is found exactly under the keys that were never entered. -/
theorem get?_eq_none_iff {t : Keyed key} {k : κ} : t.get? k = none ↔ k ∉ t.keys := by
  simp only [get?, keys, List.find?_eq_none, List.mem_map, not_exists, not_and]
  exact ⟨fun h v hv hk => h v hv (by simpa using hk), fun h v hv hk => h v hv (by simpa using hk)⟩

/-- What is found after entering a value. -/
theorem get?_insert (v : ν) (t : Keyed key) (k : κ) :
    (t.insert v).get? k = if k = key v then some v else t.get? k := by
  by_cases h : k = key v
  · rw [if_pos h, h, get?_insert_self]
  · rw [if_neg h, get?_insert_of_ne h]

/-- **A key is had once**: the values of a key are the one that is found. -/
theorem filter_key {t : Keyed key} {v : ν} (h : v ∈ t.toList) :
    t.toList.filter (fun w => key w == key v) = [v] := by
  obtain ⟨vs, hvs⟩ := t
  dsimp only at h ⊢
  induction vs with
  | nil => exact absurd h List.not_mem_nil
  | cons w rest ih =>
    rw [List.map_cons, List.nodup_cons] at hvs
    rcases List.mem_cons.mp h with rfl | hmem
    · have hrest : rest.filter (fun w => key w == key v) = [] := by
        rw [List.filter_eq_nil_iff]
        intro w hw heq
        exact hvs.1 (List.mem_map.mpr ⟨w, hw, beq_iff_eq.mp heq⟩)
      rw [List.filter_cons, if_pos (beq_self_eq_true _), hrest]
    · have hne : ¬(key w == key v) = true := by
        rw [beq_iff_eq]
        intro heq
        exact hvs.1 (List.mem_map.mpr ⟨v, hmem, heq.symm⟩)
      rw [List.filter_cons, if_neg hne, ih hvs.2 hmem]

/-! ### Entering a value -/

/-- The list after a value of a new key. -/
theorem toList_insert_of_notMem {v : ν} {t : Keyed key} (h : key v ∉ t.keys) :
    (t.insert v).toList = t.toList ++ [v] := by
  obtain ⟨vs, hvs⟩ := t
  simp only [keys, insert] at h ⊢
  clear hvs
  induction vs with
  | nil => rfl
  | cons w rest ih =>
    rw [List.map_cons, List.mem_cons, not_or] at h
    rw [placeIn, if_neg fun e => h.1 e.symm, ih h.2, List.cons_append]

/-- The values after entering one: the new value, and the old ones of other keys. -/
theorem mem_insert {v w : ν} {t : Keyed key} :
    w ∈ (t.insert v).toList ↔ w = v ∨ (w ∈ t.toList ∧ key w ≠ key v) := by
  have hw : w ∈ (t.insert v).toList ↔ (t.insert v).get? (key w) = some w := by
    rw [get?_eq_some_iff, and_iff_left rfl]
  rw [hw, get?_insert]
  by_cases h : key w = key v
  · rw [if_pos h, Option.some.injEq, eq_comm]
    exact ⟨Or.inl, fun hor => hor.resolve_right fun hand => hand.2 h⟩
  · rw [if_neg h, get?_eq_some_iff]
    constructor
    · exact fun ⟨hmem, _⟩ => Or.inr ⟨hmem, h⟩
    · rintro (rfl | ⟨hmem, -⟩)
      · exact absurd rfl h
      · exact ⟨hmem, rfl⟩

/-- A known key is only replaced, a new one is counted. -/
theorem size_insert (v : ν) (t : Keyed key) :
    (t.insert v).size = t.size + if key v ∈ t.keys then 0 else 1 := by
  have hlen : ∀ s : Keyed key, s.size = s.keys.length := fun s => (List.length_map _).symm
  rw [hlen, hlen, keys_insert]
  split <;> simp

/-- A selection that passes over the new value and over the one it replaces stays as it is. -/
theorem filter_insert_of_irrelevant {p : ν → Bool} {v : ν} {t : Keyed key} (hv : p v = false)
    (ht : ∀ w ∈ t.toList, key w = key v → p w = false) :
    (t.insert v).toList.filter p = t.toList.filter p := by
  obtain ⟨vs, hvs⟩ := t
  simp only [insert] at ht ⊢
  clear hvs
  induction vs with
  | nil => simp [placeIn, hv]
  | cons w rest ih =>
    rw [placeIn]
    split
    · next hw => simp [hv, ht w List.mem_cons_self hw]
    · rw [List.filter_cons, List.filter_cons, ih fun x hx => ht x (List.mem_cons_of_mem w hx)]

/-- **New keys keep the order** in which they are entered, whatever each step does to known keys. -/
theorem toList_foldl_of_new {f : Keyed key → ν → Keyed key}
    (hf : ∀ t v, key v ∉ t.keys → f t v = t.insert v) {vs : List ν} {t : Keyed key}
    (hnew : ∀ v ∈ vs, key v ∉ t.keys) (hnodup : (vs.map key).Nodup) :
    (vs.foldl f t).toList = t.toList ++ vs := by
  induction vs generalizing t with
  | nil => rw [List.foldl_nil, List.append_nil]
  | cons v vs ih =>
    have hv : key v ∉ t.keys := hnew v List.mem_cons_self
    rw [List.map_cons, List.nodup_cons] at hnodup
    have hrest : ∀ w ∈ vs, key w ∉ (t.insert v).keys := by
      intro w hw
      rw [keys_insert, if_neg hv, List.mem_append, List.mem_singleton, not_or]
      refine ⟨hnew w (List.mem_cons_of_mem v hw), ?_⟩
      exact fun heq => hnodup.1 (heq ▸ List.mem_map_of_mem hw)
    rw [List.foldl_cons, hf t v hv, ih hrest hnodup.2, toList_insert_of_notMem hv,
      List.append_assoc, List.singleton_append]

end Keyed

/-! ### Notes for keys -/

namespace Table

variable {κ ν : Type} [DecidableEq κ]

/-- A value is noted for a key exactly when the pair is in the list. -/
theorem value?_eq_some_iff {t : Table κ ν} {k : κ} {v : ν} :
    t.value? k = some v ↔ (k, v) ∈ t.toList := by
  rw [value?, Option.map_eq_some_iff]
  constructor
  · rintro ⟨⟨j, w⟩, hget, rfl⟩
    obtain ⟨hmem, rfl⟩ := Keyed.get?_eq_some_iff.mp hget
    exact hmem
  · exact fun hmem => ⟨(k, v), Keyed.get?_eq_some_iff.mpr ⟨hmem, rfl⟩, rfl⟩

/-- Nothing is noted exactly for the keys that were never entered. -/
theorem value?_eq_none_iff {t : Table κ ν} {k : κ} : t.value? k = none ↔ k ∉ t.keys := by
  rw [value?, Option.map_eq_none_iff, Keyed.get?_eq_none_iff]

/-- What is noted after noting a value. -/
theorem value?_set (t : Table κ ν) (k : κ) (v : ν) (j : κ) :
    (t.set k v).value? j = if j = k then some v else t.value? j := by
  rw [value?, set, Keyed.get?_insert, apply_ite (Option.map Prod.snd)]
  rfl

/-- What is noted after noting a value for a key that may be known. -/
theorem value?_setNew (t : Table κ ν) (k : κ) (v : ν) (j : κ) :
    (t.setNew k v).value? j = (t.value? j).or (if j = k then some v else none) := by
  rw [setNew]
  split
  · next hk =>
    by_cases hj : j = k
    · obtain ⟨w, hw⟩ := Option.ne_none_iff_exists'.mp
        (mt value?_eq_none_iff.mp (not_not_intro (Keyed.contains_iff.mp hk)))
      rw [hj, hw, Option.some_or]
    · rw [if_neg hj, Option.or_none]
  · next hk =>
    rw [Keyed.contains_iff] at hk
    rw [← set, value?_set]
    by_cases hj : j = k
    · rw [if_pos hj, if_pos hj, hj, value?_eq_none_iff.mpr hk, Option.none_or]
    · rw [if_neg hj, if_neg hj, Option.or_none]

/-- The keys after noting a value. -/
theorem keys_set (t : Table κ ν) (k : κ) (v : ν) :
    (t.set k v).keys = if k ∈ t.keys then t.keys else t.keys ++ [k] :=
  Keyed.keys_insert (k, v) t

/-- The keys after noting a value for a key that may be known. -/
theorem keys_setNew (t : Table κ ν) (k : κ) (v : ν) :
    (t.setNew k v).keys = if k ∈ t.keys then t.keys else t.keys ++ [k] := by
  rw [setNew]
  split
  · next hk => rw [if_pos (Keyed.contains_iff.mp hk)]
  · exact keys_set t k v

/-- The keys after noting a value are the key and the old ones. -/
theorem mem_keys_set {t : Table κ ν} {k j : κ} {v : ν} :
    j ∈ (t.set k v).keys ↔ j = k ∨ j ∈ t.keys := by
  rw [keys_set]
  split
  · next hk => exact ⟨Or.inr, fun h => h.elim (fun heq => heq ▸ hk) id⟩
  · rw [List.mem_append, List.mem_singleton, or_comm]

/-- The keys after adding values are the key and the old ones. -/
theorem mem_keys_extend {t : Table κ (List ν)} {k j : κ} {vs : List ν} :
    j ∈ (t.extend k vs).keys ↔ j = k ∨ j ∈ t.keys :=
  mem_keys_set

/-- The first values of a key are entered as they are. -/
theorem extend_of_notMem {t : Table κ (List ν)} {k : κ} (vs : List ν) (h : k ∉ t.keys) :
    t.extend k vs = t.insert (k, vs) := by
  rw [extend, value?_eq_none_iff.mpr h, Option.getD_none, List.nil_append]

/-- **One table on top of another**: what is noted once every note of the first is made in the
second is the note of the first, or else the one of the second. -/
theorem value?_foldl_set (s t : Table κ ν) (k : κ) :
    (s.toList.foldl (fun (t : Table κ ν) e => t.set e.1 e.2) t).value? k =
      (s.value? k).or (t.value? k) := by
  obtain ⟨es, hes⟩ := s
  change _ = ((es.find? fun e => e.1 == k).map Prod.snd).or (t.value? k)
  dsimp only
  induction es generalizing t with
  | nil => rfl
  | cons e es ih =>
    rw [List.map_cons, List.nodup_cons] at hes
    rw [List.foldl_cons, ih _ hes.2, value?_set, List.find?_cons]
    by_cases hk : k = e.1
    · -- the key of the first note does not come again, so the later notes leave it alone
      have hnone : es.find? (fun e => e.1 == k) = none := by
        rw [List.find?_eq_none]
        intro w hw heq
        exact hes.1 (List.mem_map.mpr ⟨w, hw, (beq_iff_eq.mp heq).trans hk⟩)
      rw [hnone, if_pos hk, hk, beq_self_eq_true]
      rfl
    · rw [if_neg hk, beq_eq_false_iff_ne.mpr (Ne.symm hk)]

/-- Tables with the same notes, in any order, are looked up alike. -/
theorem value?_eq_of_perm {s t : Table κ ν} (h : s.toList.Perm t.toList) (k : κ) :
    s.value? k = t.value? k := by
  refine Option.ext fun v => ?_
  rw [value?_eq_some_iff, value?_eq_some_iff, h.mem_iff]

/-- A table with `f` applied to everything that is noted. -/
def mapValues {μ : Type} (f : ν → μ) (t : Table κ ν) : Table κ μ where
  toList := t.toList.map (Prod.map id f)
  nodup := by simpa [Function.comp_def] using t.nodup

@[simp] theorem keys_mapValues {μ : Type} (f : ν → μ) (t : Table κ ν) :
    (t.mapValues f).keys = t.keys := by
  simp [Keyed.keys, mapValues, Function.comp_def]

/-- What is noted goes through `f`, whether it is new or takes the place of something. -/
theorem mapValues_insert {μ : Type} (f : ν → μ) (t : Table κ ν) (k : κ) (v : ν) :
    mapValues f (t.insert (k, v)) = (t.mapValues f).insert (k, f v) := by
  obtain ⟨es, hes⟩ := t
  simp only [mapValues, Keyed.insert, Keyed.mk.injEq]
  clear hes
  induction es with
  | nil => rfl
  | cons e es ih =>
    simp only [placeIn, List.map_cons, Prod.map_fst, id_eq]
    split
    · rfl
    · rw [List.map_cons, ih]

/-- What is noted for a new key goes through `f`. -/
theorem mapValues_setNew {μ : Type} (f : ν → μ) (t : Table κ ν) (k : κ) (v : ν) :
    (t.setNew k v).mapValues f = (t.mapValues f).setNew k (f v) := by
  have hcontains : (t.mapValues f).contains k = t.contains k := by
    rw [Keyed.contains, Keyed.contains, keys_mapValues]
  rw [setNew, setNew, hcontains, ← mapValues_insert]
  split <;> rfl

/-- **Notes for different keys** are kept in the order in which they are made. -/
theorem toList_foldl_set {es : List (κ × ν)} (h : (es.map Prod.fst).Nodup) :
    (es.foldl (fun (t : Table κ ν) e => t.set e.1 e.2) {}).toList = es := by
  have hfold := Keyed.toList_foldl_of_new (f := fun (t : Table κ ν) e => t.set e.1 e.2) (t := {})
    (fun _ _ _ => rfl) (fun _ _ => List.not_mem_nil) h
  exact hfold

/-- **Values for different keys** are kept in the order in which they are added. -/
theorem toList_foldl_extend {es : List (κ × List ν)} (h : (es.map Prod.fst).Nodup) :
    (es.foldl (fun (t : Table κ (List ν)) e => t.extend e.1 e.2) {}).toList = es := by
  have hfold := Keyed.toList_foldl_of_new (f := fun (t : Table κ (List ν)) e => t.extend e.1 e.2)
    (t := {}) (fun _ e he => extend_of_notMem e.2 he) (fun _ _ => List.not_mem_nil) h
  exact hfold

end Table

end SystemSketch
