/-!
# Lists with keys

A keyed list holds at most one value of each key, in the order in which the keys were first
entered. Entering a value of a known key puts it into the place of the old one.

## Main definitions

* `Keyed key` — the values with the proof that their keys differ.
* `Table κ ν` — the keyed lists of pairs, that is, of keys with what is noted for them.
* `Keyed.insert` — enters a value.
* `Keyed.get?`, `Keyed.contains` — the value of a key.

## Main results

* `Keyed.keys_insert` — a new key goes to the end, a known one keeps its place.
* `Keyed.get?_insert_self`, `Keyed.get?_insert_of_ne` — what is found after entering.
-/

namespace SystemSketch

section

variable {κ ν : Type} [DecidableEq κ] (key : ν → κ)

/-- Enters `v` into the place of the value of its key, or at the end. -/
def placeIn (v : ν) : List ν → List ν
  | [] => [v]
  | w :: rest => if key w = key v then v :: rest else w :: placeIn v rest

theorem map_key_placeIn (v : ν) (vs : List ν) :
    (placeIn key v vs).map key =
      if key v ∈ vs.map key then vs.map key else vs.map key ++ [key v] := by
  induction vs with
  | nil => simp [placeIn]
  | cons w rest ih =>
    unfold placeIn
    by_cases h : key w = key v
    · simp [h]
    · have hne : key v ≠ key w := fun e => h e.symm
      simp only [h, if_false, List.map_cons, ih, List.mem_cons, hne, false_or]
      split <;> simp

theorem nodup_placeIn {v : ν} {vs : List ν} (h : (vs.map key).Nodup) :
    ((placeIn key v vs).map key).Nodup := by
  rw [map_key_placeIn]
  split
  · exact h
  · next hv => exact List.nodup_append.2 ⟨h, by simp, by grind⟩

/-- Values of pairwise different keys, in order of the first entry of each key. -/
structure Keyed where
  toList : List ν := []
  nodup : (toList.map key).Nodup := by simp
  deriving DecidableEq

/-- Keys with what is noted for them. -/
abbrev Table (κ ν : Type) [DecidableEq κ] : Type :=
  Keyed (Prod.fst : κ × ν → κ)

end

namespace Keyed

variable {κ ν : Type} [DecidableEq κ] {key : ν → κ}

/-- The list without values. -/
def empty : Keyed key := {}

/-- The keys, in order of their first entry. -/
def keys (t : Keyed key) : List κ :=
  t.toList.map key

/-- The number of values. -/
def size (t : Keyed key) : Nat :=
  t.toList.length

/-- Enters a value. -/
def insert (v : ν) (t : Keyed key) : Keyed key where
  toList := placeIn key v t.toList
  nodup := nodup_placeIn key t.nodup

/-- The value of a key. -/
def get? (t : Keyed key) (k : κ) : Option ν :=
  t.toList.find? fun v => key v == k

/-- Whether there is a value of a key. -/
def contains (t : Keyed key) (k : κ) : Bool :=
  t.keys.contains k

omit [DecidableEq κ] in
theorem nodup_keys (t : Keyed key) : t.keys.Nodup := t.nodup

theorem contains_iff {t : Keyed key} {k : κ} : t.contains k = true ↔ k ∈ t.keys := by
  simp [contains]

theorem keys_insert (v : ν) (t : Keyed key) :
    (t.insert v).keys = if key v ∈ t.keys then t.keys else t.keys ++ [key v] :=
  map_key_placeIn key v t.toList

theorem get?_insert_self (v : ν) (t : Keyed key) : (t.insert v).get? (key v) = some v := by
  obtain ⟨vs, h⟩ := t
  simp only [get?, insert]
  clear h
  induction vs with
  | nil => simp [placeIn]
  | cons w rest ih =>
    unfold placeIn
    by_cases hw : key w = key v
    · simp [hw]
    · simp [hw, ih]

theorem get?_insert_of_ne {v : ν} {k : κ} (hne : k ≠ key v) (t : Keyed key) :
    (t.insert v).get? k = t.get? k := by
  obtain ⟨vs, h⟩ := t
  simp only [get?, insert]
  clear h
  induction vs with
  | nil => simp [placeIn, hne.symm]
  | cons w rest ih =>
    unfold placeIn
    by_cases hw : key w = key v
    · simp [hw, hne.symm]
    · by_cases hk : key w = k
      · simp [hk, hne]
      · simp [hw, hk, ih]

end Keyed

namespace Table

variable {κ ν : Type} [DecidableEq κ]

/-- What is noted for a key. -/
def value? (t : Table κ ν) (k : κ) : Option ν :=
  (t.get? k).map Prod.snd

/-- Notes a value for a key, instead of what was noted before. -/
def set (k : κ) (v : ν) (t : Table κ ν) : Table κ ν :=
  t.insert (k, v)

/-- Notes a value for a key, unless something is noted already. -/
def setNew (k : κ) (v : ν) (t : Table κ ν) : Table κ ν :=
  if t.contains k then t else t.insert (k, v)

/-- Adds values to those that are noted for a key. -/
def extend (k : κ) (vs : List ν) (t : Table κ (List ν)) : Table κ (List ν) :=
  t.insert (k, (t.value? k).getD [] ++ vs)

end Table

end SystemSketch
