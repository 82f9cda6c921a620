import SystemSketch.Proofs.Distinct
import SystemSketch.Proofs.Json.Encoding

/-!
# Surrogates and what stands in for them

In the values of a text, a character stands in for each surrogate. It is written nowhere in the
text, and no two surrogates have the same one. So the characters that are read tell the code points
apart, and a text can be encoded exactly if no surrogate is among its code points.

## Main definitions

* `Legible` — code points that leave enough characters of private use for their surrogates.

## Main results

* `length_freePoints` — there are as many free code points as are asked for.
* `legible_of_decode?` — the code points of bytes are legible if room is left for surrogates.
* `charOf_inj` — different code points of a text have different characters.
* `isEncodable_iff` — a text can be encoded if it holds no surrogate, and otherwise not.
* `isEncodable_of` — without surrogates, all texts can be encoded.
* `isEncodable_append`, `isEncodable_of_bytes` — a text is judged by its parts, or by its bytes.
-/

namespace SystemSketch.Json

variable {points : List Nat}

/-! ### Free code points -/

/-- Where the free code points are found. -/
theorem mem_freePoints {used : List Nat} {count p : Nat} (h : p ∈ freePoints used count) :
    p ∉ used ∧ privateStart ≤ p ∧ p < privateStart + (used.length + count) := by
  obtain ⟨hrange, hnew⟩ := List.mem_filter.mp (List.mem_of_mem_take h)
  rw [List.mem_range'_1] at hrange
  rw [List.contains_eq_mem, Bool.not_eq_true', decide_eq_false_iff_not] at hnew
  exact ⟨hnew, hrange⟩

/-- No code point is free twice. -/
theorem nodup_freePoints (used : List Nat) (count : Nat) : (freePoints used count).Nodup :=
  ((List.nodup_range' 1).filter _).sublist (List.take_sublist _ _)

/-- **Enough code points are free**: the ones in use cannot take up a larger range. -/
theorem length_freePoints (used : List Nat) (count : Nat) :
    (freePoints used count).length = count := by
  let range := List.range' privateStart (used.length + count)
  have htaken : (range.filter fun p => used.contains p).length ≤ used.length := by
    refine (((List.nodup_range' 1).filter _).subperm fun p hp => ?_).length_le
    exact List.contains_iff_mem.mp (List.mem_filter.mp hp).2
  have hparts := List.length_eq_length_filter_add (l := range) fun p => used.contains p
  rw [List.length_range'] at hparts
  rw [freePoints, List.length_take, min_eq_left]
  change count ≤ (range.filter fun p => !used.contains p).length
  omega

/-! ### The stand-ins of a text -/

/-- A text is **legible** if all that is written in it is in the range of the characters, and what
is written for private use leaves enough characters for the surrogates. -/
structure Legible (points : List Nat) : Prop where
  inRange : ∀ p ∈ writtenPoints points, p < 0x110000
  room : (privatePoints points).length + (loneSurrogates points).length ≤ 0x20000

/-- **Whatever the bytes are**, only the room for surrogates can lack. -/
theorem legible_of_decode? {bytes : List UInt8} (h : decode? bytes = some points)
    (hroom : (privatePoints points).length + (loneSurrogates points).length ≤ 0x20000) :
    Legible points :=
  ⟨lt_of_mem_writtenPoints (lt_of_decode? h), hroom⟩

/-- The character of a number has this number. -/
theorem toNat_ofNat {p : Nat} (h : p.isValidChar) : (Char.ofNat p).toNat = p := by
  rw [Char.ofNat, dif_pos h]
  rfl

/-- A number in the range of the characters that is no surrogate is the number of a character. -/
theorem isValidChar_of_not_isSurrogate {p : Nat} (hrange : p < 0x110000)
    (hplain : isSurrogate p = false) : p.isValidChar := by
  simp only [isSurrogate, isHighSurrogate, isLowSurrogate, Bool.or_eq_false_iff,
    Bool.and_eq_false_iff, decide_eq_false_iff_not] at hplain
  rw [Nat.isValidChar]
  omega

/-- The number of a character that is written in a text. -/
theorem Legible.toNat_ofNat_of_mem (h : Legible points) {p : Nat} (hp : p ∈ writtenPoints points)
    (hplain : isSurrogate p = false) : (Char.ofNat p).toNat = p :=
  toNat_ofNat (isValidChar_of_not_isSurrogate (h.inRange p hp) hplain)

/-- The surrogates that are written in a text. -/
theorem mem_loneSurrogates {p : Nat} :
    p ∈ loneSurrogates points ↔ p ∈ writtenPoints points ∧ isSurrogate p = true := by
  rw [loneSurrogates, List.mem_eraseDups, List.mem_filter]

/-- There is something that stands in for each surrogate. -/
theorem map_fst_pairs (points : List Nat) :
    (StandIns.of points).pairs.map Prod.fst = loneSurrogates points := by
  refine List.map_fst_zip ?_
  rw [List.length_map, length_freePoints]

/-- The characters that stand in for surrogates. -/
theorem map_snd_pairs (points : List Nat) :
    (StandIns.of points).pairs.map Prod.snd =
      (freePoints (privatePoints points) (loneSurrogates points).length).map Char.ofNat := by
  refine List.map_snd_zip ?_
  rw [List.length_map, length_freePoints]

/-- The numbers of the characters that stand in for surrogates. -/
theorem toNat_freePoint (hlegible : Legible points) {p : Nat}
    (h : p ∈ freePoints (privatePoints points) (loneSurrogates points).length) :
    (Char.ofNat p).toNat = p := by
  have hroom := hlegible.room
  obtain ⟨-, hstart, hend⟩ := mem_freePoints h
  rw [privateStart] at hstart hend
  refine toNat_ofNat ?_
  rw [Nat.isValidChar]
  omega

/-- **What stands in for a surrogate** is written nowhere in the text. -/
theorem notMem_of_mem_pairs (hlegible : Legible points) {s : Nat} {c : Char}
    (h : (s, c) ∈ (StandIns.of points).pairs) : c.toNat ∉ writtenPoints points := by
  intro hwritten
  have hc : c ∈ (StandIns.of points).pairs.map Prod.snd := List.mem_map_of_mem h
  rw [map_snd_pairs] at hc
  obtain ⟨p, hp, rfl⟩ := List.mem_map.mp hc
  rw [toNat_freePoint hlegible hp] at hwritten
  obtain ⟨hfree, hstart, -⟩ := mem_freePoints hp
  exact hfree (List.mem_eraseDups.mpr (List.mem_filter.mpr ⟨hwritten, decide_eq_true hstart⟩))

/-- No character stands in for two surrogates. -/
theorem eq_of_mem_pairs (hlegible : Legible points) {s s' : Nat} {c : Char}
    (h : (s, c) ∈ (StandIns.of points).pairs) (h' : (s', c) ∈ (StandIns.of points).pairs) :
    s = s' := by
  have hnodup : ((StandIns.of points).pairs.map Prod.snd).Nodup := by
    rw [map_snd_pairs]
    refine (nodup_freePoints _ _).map_on fun p hp q hq heq => ?_
    rw [← toNat_freePoint hlegible hp, heq, toNat_freePoint hlegible hq]
  exact congrArg Prod.fst (List.inj_on_of_nodup_map hnodup h h' rfl)

/-! ### Characters -/

/-- The character of a code point stands in for it, or is the one of this number. -/
theorem charOf_cases {p : Nat} (h : p ∈ writtenPoints points) :
    (isSurrogate p = true ∧ (p, (StandIns.of points).charOf p) ∈ (StandIns.of points).pairs) ∨
      (isSurrogate p = false ∧ (StandIns.of points).charOf p = Char.ofNat p) := by
  have hkey : p ∈ (StandIns.of points).pairs.map Prod.fst ↔ isSurrogate p = true := by
    rw [map_fst_pairs, mem_loneSurrogates]
    exact and_iff_right h
  rw [StandIns.charOf]
  cases hfound : (StandIns.of points).pairs.lookup p with
  | some c =>
    obtain ⟨before, after, hpairs, -⟩ := List.lookup_eq_some_iff.mp hfound
    have hmem : (p, c) ∈ (StandIns.of points).pairs :=
      hpairs ▸ List.mem_append_right before List.mem_cons_self
    exact Or.inl ⟨hkey.mp (List.mem_map_of_mem hmem), hmem⟩
  | none =>
    refine Or.inr ⟨Bool.eq_false_iff.mpr fun hsurrogate => ?_, rfl⟩
    obtain ⟨⟨s, c⟩, hmem, rfl⟩ := List.mem_map.mp (hkey.mpr hsurrogate)
    have hne := List.lookup_eq_none_iff.mp hfound _ hmem
    exact absurd hne (by simp)

/-- A character that stands for itself does not stand in for a surrogate. -/
theorem ofNat_notMem_pairs (hlegible : Legible points) {p s : Nat}
    (h : p ∈ writtenPoints points) (hplain : isSurrogate p = false) :
    (s, Char.ofNat p) ∉ (StandIns.of points).pairs := by
  intro hmem
  have hnew := notMem_of_mem_pairs hlegible hmem
  rw [hlegible.toNat_ofNat_of_mem h hplain] at hnew
  exact hnew h

/-- **Different code points** of a text have different characters. -/
theorem charOf_inj (hlegible : Legible points) {p q : Nat} (hp : p ∈ writtenPoints points)
    (hq : q ∈ writtenPoints points)
    (heq : (StandIns.of points).charOf p = (StandIns.of points).charOf q) : p = q := by
  rcases charOf_cases hp with ⟨-, hstandIn⟩ | ⟨hplain, hchar⟩ <;>
    rcases charOf_cases hq with ⟨-, hstandIn'⟩ | ⟨hplain', hchar'⟩
  · exact eq_of_mem_pairs hlegible hstandIn (heq ▸ hstandIn')
  · rw [heq, hchar'] at hstandIn
    exact absurd hstandIn (ofNat_notMem_pairs hlegible hq hplain')
  · rw [← heq, hchar] at hstandIn'
    exact absurd hstandIn' (ofNat_notMem_pairs hlegible hp hplain)
  · rw [hchar, hchar'] at heq
    rw [← hlegible.toNat_ofNat_of_mem hp hplain, heq, hlegible.toNat_ofNat_of_mem hq hplain']

/-- A text can be encoded if nothing in it stands in for a surrogate. -/
theorem isEncodable_iff_notMem {s : StandIns} {text : String} :
    s.isEncodable text = true ↔ ∀ entry ∈ s.pairs, entry.2 ∉ text.toList := by
  simp only [StandIns.isEncodable, List.all_eq_true, Bool.not_eq_true', List.contains_eq_mem,
    decide_eq_false_iff_not]

/-- **A text that is read** from code points can be encoded exactly if none of them is a
surrogate. -/
theorem isEncodable_iff (hlegible : Legible points) {ps : List Nat}
    (hps : ∀ p ∈ ps, p ∈ writtenPoints points) :
    (StandIns.of points).isEncodable (String.ofList (ps.map (StandIns.of points).charOf)) = true ↔
      ∀ p ∈ ps, isSurrogate p = false := by
  rw [isEncodable_iff_notMem, String.toList_ofList]
  constructor
  · intro hnone p hp
    rcases charOf_cases (hps p hp) with ⟨-, hstandIn⟩ | ⟨hplain, -⟩
    · exact absurd (List.mem_map_of_mem hp) (hnone _ hstandIn)
    · exact hplain
  · rintro hplain ⟨s, c⟩ hmem hc
    obtain ⟨p, hp, rfl⟩ := List.mem_map.mp hc
    rcases charOf_cases (hps p hp) with ⟨hsurrogate, -⟩ | ⟨-, hchar⟩
    · exact Bool.noConfusion ((hplain p hp).symm.trans hsurrogate)
    · rw [hchar] at hmem
      exact ofNat_notMem_pairs hlegible (hps p hp) (hplain p hp) hmem

/-- **Without surrogates** in a text, all texts can be encoded. -/
theorem isEncodable_of (h : ∀ p ∈ writtenPoints points, isSurrogate p = false) (text : String) :
    (StandIns.of points).isEncodable text = true := by
  have hnone : loneSurrogates points = [] := by
    refine List.eq_nil_iff_forall_not_mem.mpr fun p hp => ?_
    obtain ⟨hwritten, hsurrogate⟩ := mem_loneSurrogates.mp hp
    exact Bool.noConfusion ((h p hwritten).symm.trans hsurrogate)
  have hpairs : (StandIns.of points).pairs = [] := by
    rw [← List.map_eq_nil_iff (f := Prod.fst), map_fst_pairs, hnone]
  rw [StandIns.isEncodable, hpairs]
  rfl

/-! ### Texts and their bytes -/

/-- A text that is put together can be encoded if both of its parts can be. -/
theorem isEncodable_append (s : StandIns) (left right : String) :
    s.isEncodable (left ++ right) = true ↔
      s.isEncodable left = true ∧ s.isEncodable right = true := by
  simp only [isEncodable_iff_notMem, String.toList_append, List.mem_append, not_or]
  exact forall₂_and

/-- A text can be encoded if its bytes lack a byte of every character that stands in for a
surrogate. -/
theorem isEncodable_of_bytes {s : StandIns} {text : String}
    (h : ∀ entry ∈ s.pairs, ∃ b ∈ String.utf8EncodeChar entry.2,
      b ∉ text.toByteArray.data.toList) : s.isEncodable text = true := by
  have hbytes : text.toByteArray.data.toList = text.toList.flatMap String.utf8EncodeChar := by
    rw [← String.utf8Encode_toList, List.utf8Encode, List.data_toByteArray]
  refine isEncodable_iff_notMem.mpr fun entry hentry hmem => ?_
  obtain ⟨b, hb, hlacks⟩ := h entry hentry
  rw [hbytes] at hlacks
  exact hlacks (List.mem_flatMap_of_mem hmem hb)

end SystemSketch.Json
