import Mathlib.Data.List.Basic
import SystemSketch.Json.Surrogate

/-!
# The range of code points

Whatever bytes a text is sent in, its code points are in the range of the characters, and so are
those that its escapes write: two surrogates that are joined reach just to the end of it.

## Main results

* `lt_of_decode?` — the code points of bytes.
* `lt_of_mem_writtenPoints` — what is written in a text.
-/

namespace SystemSketch.Json

/-- The number of a character. -/
theorem toNat_lt (c : Char) : c.toNat < 0x110000 := by
  have hvalid := c.valid
  simp only [UInt32.isValidChar, Nat.isValidChar] at hvalid
  change c.val.toNat < 0x110000
  omega

/-- The code point that two surrogates stand for. -/
theorem joinSurrogates_lt {high low : Nat} (hhigh : isHighSurrogate high = true)
    (hlow : isLowSurrogate low = true) : joinSurrogates high low < 0x110000 := by
  simp only [isHighSurrogate, isLowSurrogate, Bool.and_eq_true, decide_eq_true_eq] at hhigh hlow
  unfold joinSurrogates
  omega

/-! ### Bytes -/

/-- A surrogate among bytes. -/
theorem surrogate8?_lt {bytes rest : List UInt8} {p : Nat}
    (h : surrogate8? bytes = some (p, rest)) : p < 0x110000 := by
  unfold surrogate8? at h
  split at h
  · split at h
    · obtain ⟨rfl, rfl⟩ := Prod.mk.inj (Option.some.inj h)
      omega
    · cases h
  · cases h

/-- The code points of UTF-8. -/
theorem points8?_lt {fuel : Nat} {bytes : List UInt8} {points : List Nat}
    (h : points8? fuel bytes = some points) : ∀ p ∈ points, p < 0x110000 := by
  have hchars : ∀ text : List Char, ∀ p ∈ text.map Char.toNat, p < 0x110000 := by
    intro text p hp
    obtain ⟨c, -, rfl⟩ := List.mem_map.mp hp
    exact toNat_lt c
  induction fuel generalizing bytes points with
  | zero => cases h
  | succ fuel ih =>
    rw [points8?] at h
    split at h
    · obtain rfl := Option.some.inj h
      exact hchars _
    · obtain ⟨before, -, h⟩ := Option.bind_eq_some_iff.mp h
      obtain ⟨⟨surrogate, rest⟩, hsurrogate, h⟩ := Option.bind_eq_some_iff.mp h
      obtain ⟨after, hafter, h⟩ := Option.bind_eq_some_iff.mp h
      obtain rfl := Option.some.inj h
      exact List.forall_mem_append.mpr
        ⟨hchars before, List.forall_mem_cons.mpr ⟨surrogate8?_lt hsurrogate, ih hafter⟩⟩

/-- Units of two bytes. -/
theorem units16?_lt {bigEndian : Bool} {bytes : List UInt8} {units : List Nat}
    (h : units16? bigEndian bytes = some units) : ∀ u ∈ units, u < 0x10000 := by
  induction bytes using units16?.induct generalizing units with
  | case1 => cases h; exact fun _ hu => absurd hu List.not_mem_nil
  | case2 => cases h
  | case3 a b rest ih =>
    rw [units16?, Option.map_eq_some_iff] at h
    obtain ⟨more, hmore, rfl⟩ := h
    have hunit : unitOf bigEndian a b < 0x10000 := by
      have ha := a.toNat_lt
      have hb := b.toNat_lt
      rw [unitOf]
      split <;> omega
    exact List.forall_mem_cons.mpr ⟨hunit, ih hmore⟩

/-- The code points of units of two bytes. -/
theorem points16_lt {units : List Nat} (h : ∀ u ∈ units, u < 0x10000) :
    ∀ p ∈ points16 units, p < 0x110000 := by
  have hlarge : ∀ u, u < 0x10000 → u < 0x110000 := fun u hu => by omega
  induction units using points16.induct with
  | case1 => exact fun _ hp => absurd hp List.not_mem_nil
  | case2 unit => exact fun p hp => hlarge p (h p hp)
  | case3 high low rest hpair ih =>
    rw [points16, if_pos hpair]
    obtain ⟨hhigh, hlow⟩ := Bool.and_eq_true_iff.mp hpair
    obtain ⟨-, hrest⟩ := List.forall_mem_cons.mp (List.forall_mem_cons.mp h).2
    exact List.forall_mem_cons.mpr ⟨joinSurrogates_lt hhigh hlow, ih hrest⟩
  | case4 high low rest hpair ih =>
    rw [points16, if_neg hpair]
    obtain ⟨hhigh, hrest⟩ := List.forall_mem_cons.mp h
    exact List.forall_mem_cons.mpr ⟨hlarge high hhigh, ih hrest⟩

/-- **The code points of bytes** are in the range of the characters. -/
theorem lt_of_decode? {bytes : List UInt8} {points : List Nat}
    (h : decode? bytes = some points) : ∀ p ∈ points, p < 0x110000 := by
  obtain ⟨marked, hmarked, rfl⟩ := Option.map_eq_some_iff.mp h
  have hlt : ∀ p ∈ marked, p < 0x110000 := by
    split at hmarked
    · exact points8?_lt hmarked
    · obtain ⟨units, hunits, rfl⟩ := Option.map_eq_some_iff.mp hmarked
      exact points16_lt (units16?_lt hunits)
    · obtain ⟨units, -, hpoints⟩ := Option.bind_eq_some_iff.mp hmarked
      rw [points32?] at hpoints
      split at hpoints
      · next hall =>
        obtain rfl := Option.some.inj hpoints
        exact fun p hp => of_decide_eq_true (List.all_eq_true.mp hall p hp)
      · cases hpoints
  cases marked with
  | nil => exact hlt
  | cons p rest =>
    rw [withoutMark]
    split
    · exact (List.forall_mem_cons.mp hlt).2
    · exact hlt

/-! ### Escapes -/

/-- The value of a hexadecimal digit. -/
theorem hexValue?_lt {c : Char} {n : Nat} (h : Text.hexValue? c = some n) : n < 16 := by
  simp only [Text.hexValue?, Char.isDigit, ge_iff_le, Bool.and_eq_true, decide_eq_true_eq,
    Char.le_def, UInt32.le_iff_toNat_le] at h
  change (if 48 ≤ c.toNat ∧ c.toNat ≤ 57 then some (c.toNat - 48)
    else if 97 ≤ c.toNat ∧ c.toNat ≤ 102 then some (c.toNat - 97 + 10)
    else if 65 ≤ c.toNat ∧ c.toNat ≤ 70 then some (c.toNat - 65 + 10) else none) = some n at h
  grind

/-- Four hexadecimal digits. -/
theorem hexUnit?_lt {cs rest : List Char} {unit : Nat} (h : hexUnit? cs = some (unit, rest)) :
    unit < 0x10000 := by
  unfold hexUnit? at h
  split at h
  · obtain ⟨a, ha, h⟩ := Option.bind_eq_some_iff.mp h
    obtain ⟨b, hb, h⟩ := Option.bind_eq_some_iff.mp h
    obtain ⟨c, hc, h⟩ := Option.bind_eq_some_iff.mp h
    obtain ⟨d, hd, h⟩ := Option.bind_eq_some_iff.mp h
    obtain ⟨rfl, -⟩ := Prod.mk.inj (Option.some.inj h)
    have ha := hexValue?_lt ha
    have hb := hexValue?_lt hb
    have hc := hexValue?_lt hc
    have hd := hexValue?_lt hd
    omega
  · cases h

/-- The code point of an escape. -/
theorem unicodeEscape?_lt {cs rest : List Char} {p : Nat}
    (h : unicodeEscape? cs = some (p, rest)) : p < 0x110000 := by
  obtain ⟨⟨unit, after⟩, hunit, h⟩ := Option.bind_eq_some_iff.mp h
  have hsmall : unit < 0x110000 := by
    have hlt := hexUnit?_lt hunit
    omega
  dsimp only at h
  split at h
  · split at h
    · next hpair =>
      obtain ⟨hhigh, hlow⟩ := Bool.and_eq_true_iff.mp hpair
      obtain ⟨rfl, -⟩ := Prod.mk.inj (Option.some.inj h)
      exact joinSurrogates_lt hhigh hlow
    · obtain ⟨rfl, -⟩ := Prod.mk.inj (Option.some.inj h)
      exact hsmall
  · obtain ⟨rfl, -⟩ := Prod.mk.inj (Option.some.inj h)
    exact hsmall

/-- The code points that escapes write. -/
theorem lt_of_mem_escapedPoints {fuel : Nat} {cs : List Char} :
    ∀ p ∈ escapedPoints fuel cs, p < 0x110000 := by
  induction fuel, cs using escapedPoints.induct with
  | case1 | case2 => exact fun _ hp => absurd hp List.not_mem_nil
  | case3 fuel cs point rest hescape ih =>
    rw [escapedPoints, hescape]
    exact List.forall_mem_cons.mpr ⟨unicodeEscape?_lt hescape, ih⟩
  | case4 fuel cs hescape ih =>
    rw [escapedPoints, hescape]
    exact ih
  | case5 fuel head cs hplain ih =>
    rw [escapedPoints]
    · exact ih
    · exact hplain
  | case6 fuel head cs hcode hescape ih =>
    rw [escapedPoints]
    · exact ih
    · exact hcode
    · exact hescape

/-- **What is written in a text** is in the range of the characters if the text is. -/
theorem lt_of_mem_writtenPoints {points : List Nat} (h : ∀ p ∈ points, p < 0x110000) :
    ∀ p ∈ writtenPoints points, p < 0x110000 :=
  List.forall_mem_append.mpr ⟨h, lt_of_mem_escapedPoints⟩

end SystemSketch.Json
