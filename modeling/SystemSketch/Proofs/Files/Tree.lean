import Mathlib.Data.List.Infix
import SystemSketch.Files.Tree

/-!
# What stands where in a tree

A tree is compared with another one place by place: at every place there is a directory, a file
with its bytes, or nothing. Something put at a place is seen at this place and below it, and
nothing changes elsewhere.

## Main definitions

* `Sight` — what can be seen at a place.
* `FileTree.look?` — what is seen at a place of a tree.
* `FileTree.Reaches` — whether there is a directory for what is put at a place.

## Main results

* `FileTree.look?_eq_directory` — what stands above something is a directory.
* `FileTree.look?_put` — what is seen after something is put at a place.
-/

namespace SystemSketch

/-- What can be seen at a place: a directory, whose entries stand at places of their own, or a
file with its bytes. -/
inductive Sight where
  | directory
  | file (content : List UInt8)
  deriving DecidableEq

namespace FileTree

/-- What is seen of a tree from its top. -/
def sight : FileTree → Sight
  | directory _ => .directory
  | file content => .file content

/-- What is seen at a place of a tree. -/
def look? (tree : FileTree) (place : Path.Directory) : Option Sight :=
  (tree.get? place).map sight

/-- Whether there is a directory for what is put at a place. -/
def Reaches (tree : FileTree) (place : Path.Directory) : Prop :=
  ∀ above name, place = above ++ [name] → tree.look? above = some .directory

variable {tree new : FileTree} {place : Path.Directory}

/-- A tree stands at its own top. -/
@[simp] theorem look?_nil (tree : FileTree) : tree.look? [] = some tree.sight := by
  rw [look?, get?, Option.map_some]

/-- What is seen below an entry of a tree is seen in this entry. -/
theorem look?_cons (tree : FileTree) (name : String) (names : Path.Directory) :
    tree.look? (name :: names) = (tree.entry? name).bind (·.look? names) := by
  rw [look?, get?]
  cases tree.entry? name <;> rfl

/-- A tree with entries is a directory. -/
theorem sight_of_entry? {name : String} {below : FileTree} (h : tree.entry? name = some below) :
    tree.sight = .directory := by
  cases tree with
  | directory => rfl
  | file => exact absurd h (Option.some_ne_none below).symm

/-- **What stands above something is a directory.** -/
theorem look?_eq_directory {name : String} {names : Path.Directory} {seen : Sight}
    (h : tree.look? (place ++ name :: names) = some seen) :
    tree.look? place = some .directory := by
  induction place generalizing tree with
  | nil =>
    rw [List.nil_append, look?_cons] at h
    obtain ⟨below, hbelow, -⟩ := Option.bind_eq_some_iff.mp h
    rw [look?_nil, sight_of_entry? hbelow]
  | cons first place ih =>
    rw [List.cons_append, look?_cons] at h
    obtain ⟨below, hbelow, hrest⟩ := Option.bind_eq_some_iff.mp h
    rw [look?_cons, hbelow, Option.bind_some]
    exact ih hrest

/-- There is a directory for what stands at a place already. -/
theorem reaches_of_look? {seen : Sight} (h : tree.look? place = some seen) :
    tree.Reaches place := by
  rintro above name rfl
  exact look?_eq_directory h

/-! ### Putting something at a place -/

/-- What is found among entries with a new one. -/
theorem find?_enterUnder (name other : String) (new : FileTree)
    (entries : List (String × FileTree)) :
    ((enterUnder name new entries).find? (·.1 == other)).map Prod.snd =
      if name = other then some new else (entries.find? (·.1 == other)).map Prod.snd := by
  induction entries with
  | nil => by_cases h : name = other <;> simp [enterUnder, h]
  | cons entry entries ih =>
    obtain ⟨n, t⟩ := entry
    rw [enterUnder]
    by_cases hn : n = name
    · subst hn
      by_cases h : n = other <;> simp [h]
    · rw [if_neg (by simpa using hn)]
      by_cases h : n = other
      · subst h
        simp [Ne.symm hn]
      · simpa [List.find?_cons, h] using ih

/-- A directory with a new entry has this entry and the other ones. -/
theorem entry?_enter (h : tree.sight = .directory) (name other : String) :
    FileTree.entry? other (tree.enter name new) =
      if name = other then some new else tree.entry? other := by
  cases tree with
  | directory entries => exact find?_enterUnder name other new entries
  | file => simp [sight] at h

/-- A new entry does not change what a tree is. -/
@[simp] theorem sight_enter (tree : FileTree) (name : String) (new : FileTree) :
    (tree.enter name new).sight = tree.sight := by
  cases tree <;> rfl

/-- What is put below an entry of a tree has its directory in this entry. -/
theorem Reaches.entry {name next : String} (h : tree.Reaches (name :: next :: place)) :
    ∃ below, tree.entry? name = some below ∧ below.Reaches (next :: place) := by
  have hbelow (above : Path.Directory) (last : String) (hlast : next :: place = above ++ [last]) :
      (tree.entry? name).bind (·.look? above) = some .directory := by
    rw [← look?_cons]
    exact h (name :: above) last (by rw [hlast, List.cons_append])
  have hnext := hbelow (next :: place).dropLast ((next :: place).getLast (List.cons_ne_nil _ _))
    (List.dropLast_append_getLast _).symm
  obtain ⟨below, hentry, -⟩ := Option.bind_eq_some_iff.mp hnext
  refine ⟨below, hentry, fun above last hlast => ?_⟩
  simpa [hentry] using hbelow above last hlast

/-- What is put below a tree is put into a directory. -/
theorem Reaches.sight {name : String} (h : tree.Reaches (name :: place)) :
    tree.sight = .directory := by
  cases place with
  | nil => simpa using h [] name rfl
  | cons next place =>
    obtain ⟨below, hentry, -⟩ := h.entry
    exact sight_of_entry? hentry

/-- **What is put at a place** is seen at this place and below it, and nothing changes
elsewhere. -/
theorem look?_put (h : tree.Reaches place) (new : FileTree) (other : Path.Directory) :
    (tree.put place new).look? other =
      if place <+: other then new.look? (other.drop place.length) else tree.look? other := by
  induction place generalizing tree other with
  | nil => simp [put]
  | cons name place ih =>
    rw [put]
    cases other with
    | nil => simp
    | cons first other =>
      rw [look?_cons, entry?_enter h.sight, look?_cons]
      by_cases hname : name = first
      · subst hname
        cases place with
        | nil => simp [put]
        | cons next place =>
          obtain ⟨below, hentry, hbelow⟩ := h.entry
          simp [hentry, ih hbelow]
      · simp [hname]

/-- What has no entries of its own is seen at its place only, if there was no directory. -/
theorem look?_put_leaf (h : tree.Reaches place) (hplace : tree.look? place ≠ some .directory)
    (hnew : ∀ name, new.entry? name = none) (other : Path.Directory) :
    (tree.put place new).look? other =
      if other = place then some new.sight else tree.look? other := by
  rw [look?_put h]
  by_cases hprefix : place <+: other
  · obtain ⟨rest, rfl⟩ := hprefix
    cases rest with
    | nil => simp
    | cons name rest =>
      have hnone : tree.look? (place ++ name :: rest) = none :=
        Option.eq_none_iff_forall_ne_some.mpr fun _ hseen => hplace (look?_eq_directory hseen)
      simp [hnone, look?_cons, hnew]
  · rw [if_neg hprefix, if_neg]
    rintro rfl
    exact hprefix List.prefix_rfl

end FileTree

end SystemSketch
