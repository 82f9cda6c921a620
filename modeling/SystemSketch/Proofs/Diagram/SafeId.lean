import Mathlib.Data.Set.Basic
import SystemSketch.Diagram.NodeId
import SystemSketch.Proofs.Text.Line

/-!
# Safe ids

Whatever an identifier looks like, the id that it asks for can stand in a diagram: it is one or more
plain word characters, with no underscore at its ends, and it is no keyword in any case. An
identifier that is such an id already asks for itself, and no other one does.

## Main definitions

* `IsName` — one or more plain word characters.
* `IsSafe` — a name without underscores at its ends that is no keyword.
* `validIds` — the same ids, spelled out by their characters.

## Main results

* `exists_safeId_eq` — what a safe id is made of.
* `isSafe_safeId` — every safe id is safe.
* `IsSafe.safeId_eq_self` — what is safe already is left as it is.
* `safeId_retraction` — the safe ids are the valid ones, and just these ask for themselves.
-/

namespace SystemSketch.Diagram

open Text

/-! ### Names -/

/-- A **name**: one or more plain word characters. -/
structure IsName (id : String) : Prop where
  ne_nil : id.toList ≠ []
  plain : ∀ c ∈ id.toList, isPlainWord c = true

instance (id : String) : Decidable (IsName id) :=
  decidable_of_iff (id.toList ≠ [] ∧ id.toList.all isPlainWord = true)
    ⟨fun ⟨hne, hall⟩ => ⟨hne, List.all_eq_true.mp hall⟩,
      fun h => ⟨h.ne_nil, List.all_eq_true.mpr h.plain⟩⟩

/-- A text of plain word characters is a name. -/
theorem isName_ofList {text : List Char} (hne : text ≠ [])
    (hplain : ∀ c ∈ text, isPlainWord c = true) : IsName (String.ofList text) :=
  ⟨by rwa [String.toList_ofList], by rwa [String.toList_ofList]⟩

/-! ### Keywords -/

/-- No keyword holds an underscore. -/
theorem isKeyword_eq_false_of_mem {text : List Char} (h : '_' ∈ text) : isKeyword text = false := by
  rw [isKeyword, Bool.eq_false_iff]
  intro hkeyword
  rw [List.contains_iff_mem] at hkeyword
  have hmark : '_' ∈ (String.ofList (text.map Char.toLower)).toList := by
    rw [String.toList_ofList]
    exact List.mem_map.mpr ⟨'_', h, rfl⟩
  exact (by decide : ∀ word ∈ keywords, '_' ∉ word.toList) _ hkeyword hmark

/-! ### What an identifier asks for -/

/-- A **safe** id: a name with no underscore at its ends that is no keyword, in any case. -/
structure IsSafe (id : String) : Prop where
  isName : IsName id
  head?_ne : id.toList.head? ≠ some '_'
  getLast?_ne : id.toList.getLast? ≠ some '_'
  not_keyword : isKeyword id.toList = false

/-- **What a safe id is made of**: plain word characters with no underscore at their ends, and `n_`
in front of them if they are a keyword. -/
theorem exists_safeId_eq (identifier : String) :
    ∃ named : List Char, named ≠ [] ∧ (∀ c ∈ named, isPlainWord c = true) ∧
      named.head? ≠ some '_' ∧ named.getLast? ≠ some '_' ∧
      safeId identifier =
        String.ofList (if isKeyword named then "n_".toList ++ named else named) := by
  generalize hplain : trimBoth (· == '_')
    (collapse (fun c => !isPlainWord c) '_' identifier.toList) = plain
  have hsafe : safeId identifier = String.ofList
      (if isKeyword (if plain.isEmpty then "node".toList else plain) then
        "n_".toList ++ (if plain.isEmpty then "node".toList else plain)
      else (if plain.isEmpty then "node".toList else plain)) := by
    rw [← hplain]
    rfl
  refine ⟨_, ?_, ?_, ?_, ?_, hsafe⟩
  all_goals split
  · decide
  · next hne => exact fun hnil => hne (List.isEmpty_iff.mpr hnil)
  · exact List.all_eq_true.mp (by decide)
  · intro c hc
    rw [← hplain] at hc
    rcases mem_collapse ((trimBoth_sublist _ _).subset hc) with rfl | ⟨-, hword⟩
    · rfl
    · simpa using hword
  · decide
  · intro hhead
    rw [← hplain] at hhead
    exact absurd ((trimBoth_ends _ _).1 '_' hhead) (by decide)
  · decide
  · intro hlast
    rw [← hplain] at hlast
    exact absurd ((trimBoth_ends _ _).2 '_' hlast) (by decide)

/-- **Safe ids are safe.** -/
theorem isSafe_safeId (identifier : String) : IsSafe (safeId identifier) := by
  obtain ⟨named, hne, hplain, hhead, hlast, hsafe⟩ := exists_safeId_eq identifier
  rw [hsafe]
  split
  · have hname : ∀ c ∈ "n_".toList ++ named, isPlainWord c = true := by
      intro c hc
      rcases List.mem_append.mp hc with hfront | hc
      · exact List.all_eq_true.mp (by decide : "n_".toList.all isPlainWord = true) c hfront
      · exact hplain c hc
    refine ⟨isName_ofList (List.append_ne_nil_of_right_ne_nil _ hne) hname, ?_, ?_, ?_⟩
    all_goals rw [String.toList_ofList]
    · rw [List.head?_append_of_ne_nil _ (by decide)]
      decide
    · rwa [List.getLast?_append_of_ne_nil _ hne]
    · exact isKeyword_eq_false_of_mem (List.mem_append_left named (by decide))
  · next hkeyword =>
    refine ⟨isName_ofList hne hplain, ?_, ?_, ?_⟩
    all_goals rw [String.toList_ofList]
    · exact hhead
    · exact hlast
    · exact Bool.eq_false_iff.mpr hkeyword

/-- **What is safe already** is left as it is. -/
theorem IsSafe.safeId_eq_self {id : String} (h : IsSafe id) : safeId id = id := by
  have hcollapse : collapse (fun c => !isPlainWord c) '_' id.toList = id.toList :=
    collapse_eq_self '_' fun c hc => by simp [h.isName.plain c hc]
  have htrim : trimBoth (· == '_') id.toList = id.toList := by
    refine trimBoth_eq_self (fun c hc => ?_) fun c hc => ?_
    · exact beq_eq_false_iff_ne.mpr fun heq => h.head?_ne (heq ▸ hc)
    · exact beq_eq_false_iff_ne.mpr fun heq => h.getLast?_ne (heq ▸ hc)
  have hne : id.toList.isEmpty = false := by simpa using h.isName.ne_nil
  simp only [safeId, hcollapse, htrim, hne, h.not_keyword, Bool.false_eq_true, if_false,
    String.ofList_toList]

/-! ### The valid ids -/

/-- The plain word characters are the letters, digits and the underscore of ASCII. -/
theorem isPlainWord_iff_between {c : Char} :
    isPlainWord c = true ↔
      ('A' ≤ c ∧ c ≤ 'Z') ∨ ('a' ≤ c ∧ c ≤ 'z') ∨ ('0' ≤ c ∧ c ≤ '9') ∨ c = '_' := by
  rw [isPlainWord_iff]
  simp only [Char.le_def, UInt32.le_iff_toNat_le, ← Char.toNat_inj]
  change _ ↔ (65 ≤ c.toNat ∧ c.toNat ≤ 90) ∨ (97 ≤ c.toNat ∧ c.toNat ≤ 122) ∨
    (48 ≤ c.toNat ∧ c.toNat ≤ 57) ∨ c.toNat = 95
  omega

/-- The **valid ids**: letters, digits and underscores of ASCII, at least one of them, with no
underscore at the ends, that are no keyword in small letters. -/
def validIds : Set String :=
  {id | id ≠ "" ∧
    (∀ c ∈ id.toList, ('A' ≤ c ∧ c ≤ 'Z') ∨ ('a' ≤ c ∧ c ≤ 'z') ∨ ('0' ≤ c ∧ c ≤ '9') ∨ c = '_') ∧
    id.toList.head? ≠ some '_' ∧ id.toList.getLast? ≠ some '_' ∧ id.toLower ∉ keywords}

/-- The valid ids are the safe ones. -/
theorem mem_validIds_iff {id : String} : id ∈ validIds ↔ IsSafe id := by
  have hkeyword : isKeyword id.toList = false ↔ id.toLower ∉ keywords := by
    rw [isKeyword, ← String.toList_map, String.ofList_toList, Bool.eq_false_iff, Ne,
      List.contains_iff_mem]
    rfl
  simp only [validIds, Set.mem_ofPred_eq, ← isPlainWord_iff_between, ← hkeyword]
  constructor
  · rintro ⟨hne, hplain, hhead, hlast, hkey⟩
    exact ⟨⟨mt String.toList_eq_nil_iff.mp hne, hplain⟩, hhead, hlast, hkey⟩
  · rintro ⟨⟨hne, hplain⟩, hhead, hlast, hkey⟩
    exact ⟨mt String.toList_eq_nil_iff.mpr hne, hplain, hhead, hlast, hkey⟩

/-- **Asking for a safe id is a retraction** onto the valid ids: whatever is asked for is valid,
every valid id is asked for, and an identifier asks for itself exactly if it is valid. -/
theorem safeId_retraction :
    Set.range safeId = validIds ∧ (∀ x, safeId (safeId x) = safeId x) ∧
      ∀ x, safeId x = x ↔ x ∈ validIds := by
  have himage (x : String) : safeId x ∈ validIds := mem_validIds_iff.mpr (isSafe_safeId x)
  have hfixed {x : String} (hx : x ∈ validIds) : safeId x = x :=
    (mem_validIds_iff.mp hx).safeId_eq_self
  refine ⟨?_, fun x => hfixed (himage x), fun x => ⟨fun hx => hx ▸ himage x, hfixed⟩⟩
  apply Set.Subset.antisymm
  · rintro _ ⟨x, rfl⟩
    exact himage x
  · exact fun x hx => ⟨x, hfixed hx⟩

end SystemSketch.Diagram
