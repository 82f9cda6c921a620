import Mathlib.Logic.Function.Iterate
import SystemSketch.Files.Disk
import SystemSketch.Proofs.Failure
import SystemSketch.Proofs.Files.Tree
import SystemSketch.Proofs.Path

/-!
# What a disk keeps

A path that can be followed leads to the place that it resolves to. A file is written to this
place and nowhere else, and directories are made only at the places that the paths above resolve
to.

## Main definitions

* `Disk.Keeps` — whether everything on a disk can still be followed on another one.
* `Disk.Gains` — whether one disk is another one with new directories.
* `Disk.Receives` — whether one disk is another one with a file, below new directories.

## Main results

* `Disk.makeAll_gains` — what making directories does, also when it breaks off.
* `Disk.writeBelow_receives` — what writing a file below new directories does.
-/

namespace SystemSketch

namespace Path

/-- Whether a place is that of a path, or of a path above it. -/
def Passes (workingDirectory : Directory) (path : String) (place : Directory) : Prop :=
  ∃ n, place = resolve workingDirectory (parent^[n] path)

theorem passes_self (workingDirectory : Directory) (path : String) :
    Passes workingDirectory path (resolve workingDirectory path) :=
  ⟨0, rfl⟩

theorem Passes.of_parent {workingDirectory place : Directory} {path : String}
    (h : Passes workingDirectory (parent path) place) : Passes workingDirectory path place := by
  obtain ⟨n, rfl⟩ := h
  exact ⟨n + 1, rfl⟩

end Path

namespace Disk

variable {d d' d'' : Disk} {path : String} {place target : Path.Directory}
  {segment : String} {segments : List String}

/-! ### Following a path -/

/-- There is a directory exactly where one is seen. -/
theorem hasDirectory_iff : d.hasDirectory place = true ↔ d.tree.look? place = some .directory := by
  rw [hasDirectory, FileTree.look?]
  cases d.tree.get? place with
  | none => simp
  | some tree => cases tree <;> simp [FileTree.isDirectory, FileTree.sight]

/-- A walk goes on from a directory to something that is there. -/
theorem walk_cons_eq_ok_iff :
    d.walk place (segment :: segments) = .ok target ↔
      d.tree.look? place = some .directory ∧ segment.utf8ByteSize ≤ nameLimit ∧
        (∃ seen, d.tree.look? (Path.follow place segment) = some seen) ∧
        d.walk (Path.follow place segment) segments = .ok target := by
  rw [walk, ← hasDirectory_iff, FileTree.look?]
  cases hd : d.hasDirectory place with
  | false => simp
  | true =>
    by_cases hsize : nameLimit < segment.utf8ByteSize
    · simp [hsize, Nat.not_le.mpr hsize]
    · cases hget : d.tree.get? (Path.follow place segment) with
      | none => simp [hsize]
      | some tree => simp [hsize, Nat.not_lt.mp hsize]

/-- A walk in two parts. -/
theorem walk_append_eq_ok_iff {first rest : List String} :
    d.walk place (first ++ rest) = .ok target ↔
      ∃ middle, d.walk place first = .ok middle ∧ d.walk middle rest = .ok target := by
  induction first generalizing place with
  | nil => simp [walk]
  | cons segment first ih =>
    simp only [List.cons_append, walk_cons_eq_ok_iff, ih]
    constructor
    · rintro ⟨hplace, hsize, hseen, middle, hfirst, hrest⟩
      exact ⟨middle, ⟨hplace, hsize, hseen, hfirst⟩, hrest⟩
    · rintro ⟨middle, ⟨hplace, hsize, hseen, hfirst⟩, hrest⟩
      exact ⟨hplace, hsize, hseen, middle, hfirst, hrest⟩

/-- A walk follows its segments. -/
theorem eq_foldl_of_walk (h : d.walk place segments = .ok target) :
    target = segments.foldl Path.follow place := by
  induction segments generalizing place with
  | nil => exact (Except.ok.inj h).symm
  | cons segment segments ih => exact ih (walk_cons_eq_ok_iff.mp h).2.2.2

/-- Naming the path of a fault changes no result. -/
theorem blame_eq_ok_iff {α : Type} {r : Except FileFault α} {a : α} :
    blame path r = .ok a ↔ r = .ok a :=
  mapError_eq_ok_iff

/-- A path leads somewhere if it can be followed to its end. -/
theorem locate_eq_ok_iff :
    d.locate path = .ok place ↔
      checkNamed path = .ok () ∧ d.walk (d.start path) (Path.segments path) = .ok place := by
  rw [locate, blame_eq_ok_iff, bind_eq_ok_iff]
  exact ⟨fun ⟨_, hnamed, hwalk⟩ => ⟨hnamed, hwalk⟩, fun ⟨hnamed, hwalk⟩ => ⟨(), hnamed, hwalk⟩⟩

/-- **A path leads to the place that it resolves to**, and something is there. -/
theorem resolve_of_locate (h : d.locate path = .ok place) :
    place = Path.resolve d.workingDirectory path ∧ ∃ seen, d.tree.look? place = some seen := by
  obtain ⟨-, hwalk⟩ := locate_eq_ok_iff.mp h
  refine ⟨eq_foldl_of_walk hwalk, ?_⟩
  obtain ⟨front, name, hsegments⟩ := Path.exists_segments path
  rw [hsegments, walk_append_eq_ok_iff] at hwalk
  obtain ⟨above, -, hname⟩ := hwalk
  obtain ⟨-, -, hseen, hend⟩ := walk_cons_eq_ok_iff.mp hname
  obtain rfl := Except.ok.inj hend
  exact hseen

/-- What is read is what stands at the place that the path leads to. -/
theorem read_of_locate {content : List UInt8} (h : d.locate path = .ok place)
    (hfile : d.tree.look? place = some (.file content)) : d.read path = .ok content := by
  rw [FileTree.look?, Option.map_eq_some_iff] at hfile
  obtain ⟨tree, hget, hsight⟩ := hfile
  cases tree with
  | directory => simp [FileTree.sight] at hsight
  | file bytes =>
    obtain rfl := Sight.file.inj hsight
    simp [read, get, h, hget, bind, Except.bind, pure, Except.pure]

/-! ### A place for something new -/

/-- Something new can be made under a name that is not too long, in a directory. -/
theorem vacancy_eq_ok_iff {front : List String} {name : String}
    (hsegments : Path.segments path = front ++ [name]) :
    d.vacancy path = .ok place ↔
      checkNamed path = .ok () ∧ ∃ above, d.walk (d.start path) front = .ok above ∧
        d.tree.look? above = some .directory ∧ name ∉ ["", ".", ".."] ∧
        name.utf8ByteSize ≤ nameLimit ∧ above ++ [name] = place := by
  have hlast : (front ++ [name]).getLastD "" = name := by simp
  simp only [vacancy, hsegments, List.dropLast_concat, hlast, bind_eq_ok_iff]
  constructor
  · rintro ⟨_, hnamed, above, hwalk, h⟩
    refine ⟨hnamed, above, hwalk, ?_⟩
    rw [← hasDirectory_iff]
    split at h
    · exact absurd h throw_ne_ok
    · next hd =>
      split at h
      · exact absurd h throw_ne_ok
      · next hname =>
        split at h
        · exact absurd h throw_ne_ok
        · next hsize =>
          exact ⟨by simpa using hd, by simpa using hname, Nat.not_lt.mp hsize, pure_eq_ok_iff.mp h⟩
  · rintro ⟨hnamed, above, hwalk, hd, hname, hsize, rfl⟩
    refine ⟨(), hnamed, above, hwalk, ?_⟩
    rw [hasDirectory_iff.mpr hd, if_neg (by simp), if_neg (by simpa using hname),
      if_neg (Nat.not_lt.mpr hsize)]
    rfl

/-- **Something new is made at the place that the path resolves to**, in a directory. -/
theorem resolve_of_vacancy (h : d.vacancy path = .ok place) :
    place = Path.resolve d.workingDirectory path ∧ d.tree.Reaches place := by
  obtain ⟨front, name, hsegments⟩ := Path.exists_segments path
  obtain ⟨-, above, hwalk, hdirectory, hname, -, rfl⟩ := (vacancy_eq_ok_iff hsegments).mp h
  constructor
  · rw [Path.resolve, hsegments, List.foldl_concat, ← Path.follow_of_notMem hname,
      eq_foldl_of_walk hwalk]
    rfl
  · rintro other last hother
    obtain ⟨rfl, -⟩ := List.append_inj' hother rfl
    exact hdirectory

/-! ### Disks on which paths still lead somewhere -/

/-- Whether everything on a disk can still be followed on another one. -/
structure Keeps (d d' : Disk) : Prop where
  workingDirectory : d'.workingDirectory = d.workingDirectory
  directory : ∀ place, d.tree.look? place = some .directory → d'.tree.look? place = some .directory
  something : ∀ place seen, d.tree.look? place = some seen →
    ∃ seen', d'.tree.look? place = some seen'

theorem Keeps.refl (d : Disk) : d.Keeps d :=
  ⟨rfl, fun _ h => h, fun _ seen h => ⟨seen, h⟩⟩

theorem Keeps.start (h : d.Keeps d') (path : String) : d'.start path = d.start path := by
  rw [Disk.start, Disk.start, h.workingDirectory]

/-- A walk is still possible where everything is kept. -/
theorem Keeps.walk (h : d.Keeps d') (hwalk : d.walk place segments = .ok target) :
    d'.walk place segments = .ok target := by
  induction segments generalizing place with
  | nil => exact hwalk
  | cons segment segments ih =>
    obtain ⟨hplace, hsize, ⟨seen, hseen⟩, hrest⟩ := walk_cons_eq_ok_iff.mp hwalk
    exact walk_cons_eq_ok_iff.mpr
      ⟨h.directory _ hplace, hsize, h.something _ seen hseen, ih hrest⟩

/-- A path still leads to its place where everything is kept. -/
theorem Keeps.locate (h : d.Keeps d') (hlocate : d.locate path = .ok place) :
    d'.locate path = .ok place := by
  obtain ⟨hnamed, hwalk⟩ := locate_eq_ok_iff.mp hlocate
  exact locate_eq_ok_iff.mpr ⟨hnamed, h.start path ▸ h.walk hwalk⟩

/-- A path leads to something new once it is there. -/
theorem Keeps.locate_of_vacancy (h : d.Keeps d') (hvacancy : d.vacancy path = .ok place)
    {seen : Sight} (hseen : d'.tree.look? place = some seen) : d'.locate path = .ok place := by
  obtain ⟨front, name, hsegments⟩ := Path.exists_segments path
  obtain ⟨hnamed, above, hwalk, hdirectory, hname, hsize, rfl⟩ :=
    (vacancy_eq_ok_iff hsegments).mp hvacancy
  rw [← Path.follow_of_notMem hname] at hseen ⊢
  rw [locate_eq_ok_iff, hsegments, walk_append_eq_ok_iff, h.start path]
  exact ⟨hnamed, above, h.walk hwalk,
    walk_cons_eq_ok_iff.mpr ⟨h.directory _ hdirectory, hsize, ⟨seen, hseen⟩, rfl⟩⟩

/-- Where something new can be made and the path leads nowhere, there is nothing. -/
theorem look?_of_vacancy (hvacancy : d.vacancy path = .ok place)
    (hlocate : ∀ target, d.locate path ≠ .ok target) : d.tree.look? place = none :=
  Option.eq_none_iff_forall_ne_some.mpr fun _ hseen =>
    hlocate place ((Keeps.refl d).locate_of_vacancy hvacancy hseen)

/-! ### Putting something on a disk -/

/-- What is put where there is no directory keeps everything else. -/
theorem keeps_put {new : FileTree} (hreaches : d.tree.Reaches place)
    (hplace : d.tree.look? place ≠ some .directory) (hnew : ∀ name, new.entry? name = none) :
    d.Keeps (d.put place new) := by
  refine ⟨rfl, fun other hother => ?_, fun other seen hseen => ?_⟩
  · have hne : other ≠ place := fun h => hplace (h ▸ hother)
    rw [put, FileTree.look?_put_leaf hreaches hplace hnew, if_neg hne]
    exact hother
  · rw [put, FileTree.look?_put_leaf hreaches hplace hnew]
    by_cases h : other = place
    · exact ⟨new.sight, if_pos h⟩
    · exact ⟨seen, (if_neg h).trans hseen⟩

/-- A file that is put at the place of its path is found there, and everything else stays. -/
theorem put_file {content : List UInt8} (hreaches : d.tree.Reaches place)
    (hplace : d.tree.look? place ≠ some .directory)
    (hlocate : ∀ d' : Disk, d.Keeps d' → d'.tree.look? place = some (.file content) →
      d'.locate path = .ok place) :
    (d.put place (.file content)).read path = .ok content ∧
      ∀ other, (d.put place (.file content)).tree.look? other =
        if other = place then some (.file content) else d.tree.look? other := by
  have hlook (other : Path.Directory) :
      (d.put place (.file content)).tree.look? other =
        if other = place then some (.file content) else d.tree.look? other :=
    FileTree.look?_put_leaf hreaches hplace (fun _ => rfl) other
  have hself := (hlook place).trans (if_pos rfl)
  exact ⟨read_of_locate (hlocate _ (keeps_put hreaches hplace fun _ => rfl) hself) hself, hlook⟩

/-- **A file is written to the place of its path**, and everything else stays. -/
theorem write_eq_ok {content : List UInt8} (h : d.write path content = .ok d') :
    d'.workingDirectory = d.workingDirectory ∧ d'.read path = .ok content ∧
      ∀ place, d'.tree.look? place =
        if place = Path.resolve d.workingDirectory path then some (.file content)
        else d.tree.look? place := by
  rw [write] at h
  cases hlocate : d.locate path with
  | ok place =>
    rw [hlocate] at h
    dsimp only at h
    split at h
    · cases h
    · next hd =>
      cases h
      obtain ⟨rfl, seen, hseen⟩ := resolve_of_locate hlocate
      exact ⟨rfl, put_file (FileTree.reaches_of_look? hseen) (mt hasDirectory_iff.mpr hd)
        fun _ hkeeps _ => hkeeps.locate hlocate⟩
  | error e =>
    rw [hlocate] at h
    dsimp only at h
    rw [bind_eq_ok_iff] at h
    obtain ⟨place, hblame, h⟩ := h
    cases h
    have hvacancy := blame_eq_ok_iff.mp hblame
    have hnone := look?_of_vacancy hvacancy fun _ hok => by simp [hlocate] at hok
    obtain ⟨rfl, hreaches⟩ := resolve_of_vacancy hvacancy
    exact ⟨rfl, put_file hreaches (by simp [hnone])
      fun _ hkeeps hseen => hkeeps.locate_of_vacancy hvacancy hseen⟩

/-! ### Making directories -/

/-- Whether one disk is another one with new directories, at some of the places `made`. -/
structure Gains (made : Path.Directory → Prop) (d d' : Disk) : Prop where
  workingDirectory : d'.workingDirectory = d.workingDirectory
  look? : ∀ place, d'.tree.look? place = d.tree.look? place ∨
    d.tree.look? place = none ∧ d'.tree.look? place = some .directory ∧ made place

variable {made : Path.Directory → Prop}

theorem Gains.refl (made : Path.Directory → Prop) (d : Disk) : Gains made d d :=
  ⟨rfl, fun _ => .inl rfl⟩

/-- New directories can be made one after the other. -/
theorem Gains.trans (h : Gains made d d') (h' : Gains made d' d'') : Gains made d d'' := by
  refine ⟨h'.workingDirectory.trans h.workingDirectory, fun place => ?_⟩
  rcases h.look? place with hsame | ⟨hnone, hnew, hmade⟩
  · rw [← hsame]
    exact h'.look? place
  · rcases h'.look? place with hsame' | ⟨hnone', -, -⟩
    · exact .inr ⟨hnone, hsame'.trans hnew, hmade⟩
    · rw [hnew] at hnone'
      cases hnone'

theorem Gains.mono {made' : Path.Directory → Prop} (h : Gains made d d')
    (himp : ∀ place, made place → made' place) : Gains made' d d' :=
  ⟨h.workingDirectory, fun place => (h.look? place).imp_right fun ⟨hnone, hnew, hmade⟩ =>
    ⟨hnone, hnew, himp place hmade⟩⟩

/-- A directory is made at the place of its path. -/
theorem makeDirectory_gains (h : d.makeDirectory path = .ok d') :
    Gains (· = Path.resolve d.workingDirectory path) d d' := by
  rw [makeDirectory] at h
  split at h
  · cases h
  · next hleads =>
    rw [bind_eq_ok_iff] at h
    obtain ⟨place, hblame, h⟩ := h
    cases h
    have hvacancy := blame_eq_ok_iff.mp hblame
    have hnone := look?_of_vacancy hvacancy fun _ hok => by
      simp [leads, hok, Except.toOption] at hleads
    obtain ⟨rfl, hreaches⟩ := resolve_of_vacancy hvacancy
    refine ⟨rfl, fun other => ?_⟩
    rw [put, FileTree.look?_put_leaf hreaches (by simp [hnone]) fun _ => rfl]
    by_cases hother : other = Path.resolve d.workingDirectory path
    · subst hother
      exact .inr ⟨hnone, if_pos rfl, rfl⟩
    · exact .inl (if_neg hother)

/-- **Directories are made at the places of the path and of those above it** only, also where this
breaks off. -/
theorem makeAll_gains (d : Disk) (path : String) (fuel : Nat) :
    Gains (Path.Passes d.workingDirectory path) d (d.makeAll path fuel).1 := by
  induction fuel generalizing d path with
  | zero => exact .refl _ d
  | succ fuel ih =>
    unfold makeAll
    dsimp only
    -- what has been made above is all that matters, not why it was missing
    generalize (!(Path.splitParent path).1.isEmpty && !(Path.splitParent path).2.isEmpty &&
      !d.leads (Path.splitParent path).1) = isMissing
    have habove : Gains (Path.Passes d.workingDirectory path) d
        (if isMissing then d.makeAll (Path.splitParent path).1 fuel else (d, none)).1 := by
      cases isMissing with
      | false => exact .refl _ d
      | true => exact (ih d (Path.parent path)).mono fun _ hplace => hplace.of_parent
    revert habove
    generalize (if isMissing then d.makeAll (Path.splitParent path).1 fuel else (d, none)) = made
    intro habove
    split
    · exact habove
    · split
      · exact habove
      · cases hmake : made.1.makeDirectory path with
        | error e => exact habove
        | ok d' =>
          refine habove.trans ((makeDirectory_gains hmake).mono ?_)
          rintro place rfl
          rw [habove.workingDirectory]
          exact Path.passes_self _ path

/-- Making directories makes nothing but directories. -/
theorem makeDirectories_gains (h : d.makeDirectories path = .ok d') :
    Gains (Path.Passes d.workingDirectory path) d d' := by
  have hgains := makeAll_gains d path (path.length + 1)
  unfold makeDirectories at h
  split at h
  · next made hmade =>
    rw [hmade] at hgains
    exact Except.ok.inj h ▸ hgains
  · cases h

/-! ### Writing below new directories -/

/-- Whether one disk is another one with a file at a path: the file can be read at the path, and
nothing else is changed or new but directories above it. -/
structure Receives (path : String) (content : List UInt8) (d d' : Disk) : Prop where
  workingDirectory : d'.workingDirectory = d.workingDirectory
  read : d'.read path = .ok content
  place : d'.tree.look? (Path.resolve d.workingDirectory path) = some (.file content)
  others : ∀ place, place ≠ Path.resolve d.workingDirectory path →
    d'.tree.look? place = d.tree.look? place ∨
      d.tree.look? place = none ∧ d'.tree.look? place = some .directory ∧
        Path.Passes d.workingDirectory (Path.parent path) place

/-- **A file is written below new directories**, and everything else stays. -/
theorem writeBelow_receives {content : List UInt8} (h : d.writeBelow path content = .ok d') :
    Receives path content d d' := by
  obtain ⟨middle, hgains, hwrite⟩ : ∃ middle,
      Gains (Path.Passes d.workingDirectory (Path.parent path)) d middle ∧
        middle.write path content = .ok d' := by
    rw [writeBelow] at h
    split at h
    · exact ⟨d, .refl _ d, h⟩
    · rw [bind_eq_ok_iff] at h
      obtain ⟨middle, hmake, hwrite⟩ := h
      exact ⟨middle, makeDirectories_gains hmake, hwrite⟩
  obtain ⟨hworking, hread, hlook⟩ := write_eq_ok hwrite
  rw [hgains.workingDirectory] at hworking hlook
  refine ⟨hworking, hread, (hlook _).trans (if_pos rfl), fun place hplace => ?_⟩
  rw [hlook, if_neg hplace]
  exact hgains.look? place

end Disk

end SystemSketch
