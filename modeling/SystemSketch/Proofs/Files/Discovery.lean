import SystemSketch.Proofs.Distinct
import SystemSketch.Proofs.Files.Loading
import SystemSketch.Proofs.Path

/-!
# Which source files are found

The search for source files walks a tree entry by entry, leaves out the directories that the rules
ignore, and puts the name of each entry behind the path of its directory. Names lead down, so other
files have other paths, and the sorted list of the paths depends on nothing but what stands where:
not on the order in which a directory lists its entries.

## Main definitions

* `FileTree.isProper` — whether the entries of every directory have different names.
* `FileTree.IsSource` — which files of a tree are source files.

## Main results

* `FileTree.mem_sourcesAmong`, `FileTree.nodup_sourcesAmong` — the walk finds every source file,
  nothing else, and nothing twice.
* `Disk.sourcePaths_exact` — the paths of the source files below a root.
-/

namespace SystemSketch

namespace FileTree

/-! ### Trees whose entries can be told apart -/

mutual

/-- Whether the entries of every directory of a tree have names, no two of them the same one. -/
def isProper : FileTree → Bool
  | file _ => true
  | directory entries => areProper entries

/-- Whether entries have names, no two of them the same one, and are proper trees. -/
def areProper : List (String × FileTree) → Bool
  | [] => true
  | (name, tree) :: entries =>
    decide (Path.IsName name) && !(entries.map Prod.fst).contains name && isProper tree &&
      areProper entries

end

variable {tree tree' below : FileTree} {entries : List (String × FileTree)}
  {name file path above : String} {directories place : List String} {rules : Rules}

theorem areProper_cons_iff :
    areProper ((name, tree) :: entries) = true ↔
      Path.IsName name ∧ name ∉ entries.map Prod.fst ∧ tree.isProper = true ∧
        areProper entries = true := by
  simp [areProper, and_assoc]

/-- The first entry of a name is the one that is found. -/
theorem entry?_cons (first : String) :
    entry? first (directory ((name, tree) :: entries)) =
      if name = first then some tree else entry? first (directory entries) := by
  by_cases h : name = first <;> simp [h, entry?]

/-- An entry that is found is there. -/
theorem mem_of_entry? (h : entry? name (directory entries) = some below) :
    name ∈ entries.map Prod.fst := by
  obtain ⟨⟨first, tree⟩, hfind, rfl⟩ := Option.map_eq_some_iff.mp h
  obtain rfl : first = name := by simpa using List.find?_some hfind
  exact List.mem_map_of_mem (List.mem_of_find?_eq_some hfind)

/-- If names differ, the entry of a name is the one that is found. -/
theorem entry?_eq_some_iff (h : (entries.map Prod.fst).Nodup) :
    entry? name (directory entries) = some below ↔ (name, below) ∈ entries := by
  induction entries with
  | nil => exact iff_of_false (Option.some_ne_none below).symm List.not_mem_nil
  | cons entry entries ih =>
    obtain ⟨first, tree⟩ := entry
    rw [List.map_cons, List.nodup_cons] at h
    rw [entry?_cons, List.mem_cons, Prod.mk.injEq]
    by_cases hfirst : first = name
    · subst hfirst
      have hnew : (first, below) ∉ entries := fun hmem => h.1 (List.mem_map.mpr ⟨_, hmem, rfl⟩)
      simp [hnew, eq_comm]
    · simp [hfirst, Ne.symm hfirst, ih h.2]

/-- **The order of entries** with different names cannot be seen. -/
theorem look?_directory_of_perm {entries' : List (String × FileTree)}
    (hperm : entries.Perm entries') (h : (entries.map Prod.fst).Nodup) (place : List String) :
    (directory entries).look? place = (directory entries').look? place := by
  cases place with
  | nil => rw [look?_nil, look?_nil, sight, sight]
  | cons first rest =>
    have hentry : entry? first (directory entries) = entry? first (directory entries') := by
      ext below
      rw [entry?_eq_some_iff h, entry?_eq_some_iff ((hperm.map Prod.fst).nodup_iff.mp h),
        hperm.mem_iff]
    rw [look?_cons, look?_cons, hentry]

/-- The entries of a proper directory have names and are proper. -/
theorem isProper_of_entry? (h : tree.isProper = true) (hentry : entry? name tree = some below) :
    Path.IsName name ∧ below.isProper = true := by
  cases tree with
  | file => exact absurd hentry (Option.some_ne_none below).symm
  | directory entries =>
    rw [isProper] at h
    induction entries with
    | nil => exact absurd hentry (Option.some_ne_none below).symm
    | cons entry entries ih =>
      obtain ⟨hname, -, htree, hentries⟩ := areProper_cons_iff.mp h
      rw [entry?_cons] at hentry
      split at hentry
      · next hfirst =>
        obtain rfl := Option.some.inj hentry
        exact ⟨hfirst ▸ hname, htree⟩
      · exact ih hentries hentry

/-- What stands below something in a tree. -/
theorem get?_append (place rest : List String) :
    tree.get? (place ++ rest) = (tree.get? place).bind (·.get? rest) := by
  induction place generalizing tree with
  | nil => rfl
  | cons name place ih =>
    rw [List.cons_append, get?, get?]
    cases entry? name tree with
    | none => rfl
    | some below => exact ih

/-- What is seen below something is seen in it. -/
theorem look?_append (h : tree.get? place = some below) (rest : List String) :
    tree.look? (place ++ rest) = below.look? rest := by
  rw [look?, get?_append, h]
  rfl

/-- **Names lead** to every place of a proper tree, and what stands there is proper. -/
theorem isProper_of_get? (h : tree.isProper = true) (hget : tree.get? place = some below) :
    (∀ name ∈ place, Path.IsName name) ∧ below.isProper = true := by
  induction place generalizing tree with
  | nil =>
    obtain rfl := Option.some.inj hget
    exact ⟨List.forall_mem_nil _, h⟩
  | cons name place ih =>
    rw [get?] at hget
    cases hentry : entry? name tree with
    | none => rw [hentry] at hget; cases hget
    | some next =>
      rw [hentry] at hget
      obtain ⟨hname, hnext⟩ := isProper_of_entry? h hentry
      obtain ⟨hplace, hbelow⟩ := ih hnext hget
      exact ⟨List.forall_mem_cons.mpr ⟨hname, hplace⟩, hbelow⟩

/-! ### Source files -/

/-- A file of a tree is a **source file** if no directory on the way to it is ignored, its name is
not ignored, and its name ends in the way that names of source files do. -/
structure IsSource (rules : Rules) (tree : FileTree) (directories : List String) (file : String) :
    Prop where
  isFile : ∃ content, tree.look? (directories ++ [file]) = some (.file content)
  entered : ∀ name ∈ directories, name ∉ rules.ignoreDirs
  notIgnored : file ∉ rules.ignoreFiles
  ends : ∃ ending ∈ rules.sourceExtensions, ending.toList <:+ file.toList

/-- The files that are read are those whose names are not ignored and end as source files do. -/
theorem reads_iff :
    rules.reads file = true ↔
      file ∉ rules.ignoreFiles ∧
        ∃ ending ∈ rules.sourceExtensions, ending.toList <:+ file.toList := by
  have hends (ending : String) :
      (Text.before? ending.toList file.toList).isSome = true ↔ ending.toList <:+ file.toList := by
    rw [Option.isSome_iff_exists]
    exact ⟨fun ⟨front, h⟩ => ⟨front, (Text.before?_eq_some_iff.mp h).symm⟩,
      fun ⟨front, h⟩ => ⟨front, Text.before?_eq_some_iff.mpr h.symm⟩⟩
  simp only [Rules.reads, Bool.and_eq_true, Bool.not_eq_true', List.any_eq_true, hends]
  simp

/-- Trees in which the same is seen at a place have the same source file there. -/
theorem isSource_congr
    (h : tree.look? (directories ++ [file]) = tree'.look? (directories ++ [file])) :
    IsSource rules tree directories file ↔ IsSource rules tree' directories file :=
  ⟨fun ⟨hfile, hentered, hname, hends⟩ => ⟨h ▸ hfile, hentered, hname, hends⟩,
    fun ⟨hfile, hentered, hname, hends⟩ => ⟨h ▸ hfile, hentered, hname, hends⟩⟩

/-- Where nothing is seen there is no source file. -/
theorem not_isSource (h : tree.look? (directories ++ [file]) = none) :
    ¬IsSource rules tree directories file := by
  rintro ⟨⟨content, hfile⟩, -, -, -⟩
  exact Option.some_ne_none _ (hfile.symm.trans h)

/-- The source files of a directory are those of its first entry and those of the others. -/
theorem isSource_cons_iff (hname : name ∉ entries.map Prod.fst) :
    IsSource rules (directory ((name, tree) :: entries)) directories file ↔
      IsSource rules (directory [(name, tree)]) directories file ∨
        IsSource rules (directory entries) directories file := by
  obtain ⟨first, rest, hplace⟩ : ∃ first rest, directories ++ [file] = first :: rest :=
    List.exists_cons_of_ne_nil (by simp)
  by_cases hfirst : name = first
  · have hothers : entry? first (directory entries) = none :=
      Option.eq_none_iff_forall_ne_some.mpr fun _ hentry => hname (hfirst ▸ mem_of_entry? hentry)
    have hnone : ¬IsSource rules (directory entries) directories file :=
      not_isSource (by rw [hplace, look?_cons, hothers, Option.bind_none])
    rw [or_iff_left hnone]
    exact isSource_congr (by simp only [hplace, look?_cons, entry?_cons, if_pos hfirst])
  · have hnone : ¬IsSource rules (directory [(name, tree)]) directories file :=
      not_isSource (by rw [hplace, look?_cons, entry?_cons, if_neg hfirst]; rfl)
    rw [or_iff_right hnone]
    exact isSource_congr (by simp only [hplace, look?_cons, entry?_cons, if_neg hfirst])

/-- A directory with a file as its only entry has this source file, if files of its name are read.
-/
theorem isSource_file_iff {content : List UInt8} :
    IsSource rules (directory [(name, .file content)]) directories file ↔
      rules.reads name = true ∧ directories = [] ∧ file = name := by
  cases directories with
  | nil =>
    constructor
    · rintro ⟨⟨bytes, hfile⟩, -, hignored, hends⟩
      rw [List.nil_append, look?_cons, entry?_cons] at hfile
      split at hfile
      · next hname =>
        subst hname
        exact ⟨reads_iff.mpr ⟨hignored, hends⟩, rfl, rfl⟩
      · cases hfile
    · rintro ⟨hreads, -, rfl⟩
      obtain ⟨hignored, hends⟩ := reads_iff.mp hreads
      refine ⟨⟨content, ?_⟩, List.forall_mem_nil _, hignored, hends⟩
      rw [List.nil_append, look?_cons, entry?_cons, if_pos rfl, Option.bind_some, look?_nil, sight]
  | cons first rest =>
    refine iff_of_false (not_isSource ?_) fun h => List.cons_ne_nil first rest h.2.1
    -- nothing stands below a file
    have hbelow : (FileTree.file content).look? (rest ++ [file]) = none := by
      cases rest <;> rfl
    rw [List.cons_append, look?_cons, entry?_cons]
    split
    · exact hbelow
    · rfl

/-- A directory with a directory as its only entry has the source files of this one, if it is
entered. -/
theorem isSource_directory_iff :
    IsSource rules (directory [(name, directory entries)]) directories file ↔
      rules.enters name = true ∧ ∃ rest, directories = name :: rest ∧
        IsSource rules (directory entries) rest file := by
  have henters : rules.enters name = true ↔ name ∉ rules.ignoreDirs := by simp [Rules.enters]
  cases directories with
  | nil =>
    refine iff_of_false ?_ fun ⟨_, _, h, _⟩ => List.cons_ne_nil _ _ h.symm
    rintro ⟨⟨bytes, hfile⟩, -, -, -⟩
    rw [List.nil_append, look?_cons, entry?_cons] at hfile
    split at hfile <;> cases hfile
  | cons first rest =>
    by_cases hname : name = first
    · subst hname
      have hlook : (directory [(name, directory entries)]).look? (name :: rest ++ [file]) =
          (directory entries).look? (rest ++ [file]) := by
        rw [List.cons_append, look?_cons, entry?_cons, if_pos rfl, Option.bind_some]
      rw [henters]
      constructor
      · rintro ⟨hfile, hentered, hignored, hends⟩
        obtain ⟨hfirst, hrest⟩ := List.forall_mem_cons.mp hentered
        exact ⟨hfirst, rest, rfl, hlook ▸ hfile, hrest, hignored, hends⟩
      · rintro ⟨hfirst, rest', heq, hfile, hrest, hignored, hends⟩
        obtain rfl := List.cons_inj_right name |>.mp heq
        exact ⟨hlook ▸ hfile, List.forall_mem_cons.mpr ⟨hfirst, hrest⟩, hignored, hends⟩
    · refine iff_of_false (not_isSource ?_) fun ⟨_, _, h, _⟩ => hname (List.cons.inj h).1.symm
      rw [List.cons_append, look?_cons, entry?_cons, if_neg hname]
      rfl

/-! ### The walk -/

mutual

/-- The walk of an entry finds the source files of a directory with this entry only. -/
theorem mem_sourcesAt (rules : Rules) (above name path : String) : ∀ {tree : FileTree},
    tree.isProper = true →
      (path ∈ sourcesAt rules above name tree ↔
        ∃ directories file, IsSource rules (directory [(name, tree)]) directories file ∧
          path = (directories ++ [file]).foldl Path.join above)
  | .file content, _ => by
    simp only [sourcesAt, isSource_file_iff]
    split
    · next hreads => simp [hreads]
    · next hreads => simp [hreads]
  | .directory entries, h => by
    simp only [sourcesAt, isSource_directory_iff]
    rw [isProper] at h
    split
    · next henters =>
      rw [mem_sourcesAmong rules (Path.join above name) path h]
      constructor
      · rintro ⟨rest, file, hsource, hpath⟩
        exact ⟨name :: rest, file, ⟨henters, rest, rfl, hsource⟩, hpath⟩
      · rintro ⟨_, file, ⟨-, rest, rfl, hsource⟩, hpath⟩
        exact ⟨rest, file, hsource, hpath⟩
    · next henters => simp [henters]

/-- **The walk of a directory** finds the paths of its source files, and nothing else. -/
theorem mem_sourcesAmong (rules : Rules) (above path : String) :
    ∀ {entries : List (String × FileTree)}, areProper entries = true →
      (path ∈ sourcesAmong rules above entries ↔
        ∃ directories file, IsSource rules (directory entries) directories file ∧
          path = (directories ++ [file]).foldl Path.join above)
  | [], _ => by
    refine iff_of_false List.not_mem_nil ?_
    rintro ⟨directories, file, hsource, -⟩
    refine not_isSource ?_ hsource
    cases directories <;> rfl
  | (name, tree) :: entries, h => by
    obtain ⟨-, hname, htree, hentries⟩ := areProper_cons_iff.mp h
    rw [sourcesAmong, List.mem_append, mem_sourcesAt rules above name path htree,
      mem_sourcesAmong rules above path hentries]
    simp only [isSource_cons_iff hname, or_and_right, exists_or]

end

/-- The way to a source file begins with an entry. -/
theorem exists_entry_of_isSource (h : IsSource rules (directory entries) directories file) :
    ∃ first ∈ entries.map Prod.fst, ∃ rest, directories ++ [file] = first :: rest := by
  obtain ⟨first, rest, hplace⟩ : ∃ first rest, directories ++ [file] = first :: rest :=
    List.exists_cons_of_ne_nil (by simp)
  obtain ⟨content, hfile⟩ := h.isFile
  rw [hplace, look?_cons] at hfile
  obtain ⟨below, hentry, -⟩ := Option.bind_eq_some_iff.mp hfile
  exact ⟨first, mem_of_entry? hentry, rest, hplace⟩

/-- Names lead to the source files of a proper tree. -/
theorem isName_of_isSource (htree : tree.isProper = true)
    (h : IsSource rules tree directories file) :
    ∀ name ∈ directories ++ [file], Path.IsName name := by
  obtain ⟨content, hfile⟩ := h.isFile
  obtain ⟨below, hget, -⟩ := Option.map_eq_some_iff.mp hfile
  exact (isProper_of_get? htree hget).1

mutual

/-- The walk of an entry finds nothing twice. -/
theorem nodup_sourcesAt (rules : Rules) (above name : String) : ∀ {tree : FileTree},
    tree.isProper = true → (sourcesAt rules above name tree).Nodup
  | .file content, _ => by
    rw [sourcesAt]
    split
    · exact List.nodup_singleton _
    · exact List.nodup_nil
  | .directory entries, h => by
    rw [sourcesAt]
    split
    · exact nodup_sourcesAmong rules (Path.join above name) h
    · exact List.nodup_nil

/-- **The walk of a directory** finds nothing twice: files below different entries have different
paths. -/
theorem nodup_sourcesAmong (rules : Rules) (above : String) :
    ∀ {entries : List (String × FileTree)}, areProper entries = true →
      (sourcesAmong rules above entries).Nodup
  | [], _ => List.nodup_nil
  | (name, tree) :: entries, h => by
    obtain ⟨hisName, hname, htree, hentries⟩ := areProper_cons_iff.mp h
    refine List.Nodup.append (nodup_sourcesAt rules above name htree)
      (nodup_sourcesAmong rules above hentries) fun path hfirst hothers => ?_
    obtain ⟨directories, file, hsource, rfl⟩ :=
      (mem_sourcesAt rules above name path htree).mp hfirst
    obtain ⟨directories', file', hsource', hpath⟩ :=
      (mem_sourcesAmong rules above _ hentries).mp hothers
    have honly : (directory [(name, tree)]).isProper = true :=
      areProper_cons_iff.mpr ⟨hisName, List.not_mem_nil, htree, rfl⟩
    have hrest : (directory entries).isProper = true := hentries
    have hplace : directories ++ [file] = directories' ++ [file'] :=
      Path.foldl_join_inj (isName_of_isSource honly hsource) (isName_of_isSource hrest hsource')
        hpath
    obtain ⟨first, hfirst, rest, hbegin⟩ := exists_entry_of_isSource hsource
    obtain ⟨first', hfirst', rest', hbegin'⟩ := exists_entry_of_isSource hsource'
    rw [hplace, hbegin'] at hbegin
    have hsame : first' = name := (List.cons.inj hbegin).1.trans (List.mem_singleton.mp hfirst)
    exact hname (hsame ▸ hfirst')

end

end FileTree

/-! ### The list of paths -/

namespace Disk

variable {d d' : Disk} {rules : Rules} {root : String} {tree : FileTree}

/-- What a path leads to stands at the place of the path. -/
theorem get_eq_ok_iff :
    d.get root = .ok tree ↔ ∃ place, d.locate root = .ok place ∧ d.tree.get? place = some tree := by
  rw [get, bind_eq_ok_iff]
  refine exists_congr fun place => and_congr_right fun _ => ?_
  cases d.tree.get? place <;> simp

/-- Disks that look the same have trees that look the same at a root. -/
theorem exists_get_of_look? (hdirectory : d'.workingDirectory = d.workingDirectory)
    (hlook : ∀ place, d'.tree.look? place = d.tree.look? place) (h : d.get root = .ok tree) :
    ∃ tree', d'.get root = .ok tree' ∧ ∀ place, tree'.look? place = tree.look? place := by
  obtain ⟨place, hlocate, hget⟩ := get_eq_ok_iff.mp h
  have hkeeps : d.Keeps d' :=
    ⟨hdirectory, fun place h => (hlook place).trans h,
      fun place seen h => ⟨seen, (hlook place).trans h⟩⟩
  have hsight : d'.tree.look? place = some tree.sight := by
    rw [hlook, FileTree.look?, hget, Option.map_some]
  obtain ⟨tree', hget', -⟩ := Option.map_eq_some_iff.mp hsight
  refine ⟨tree', get_eq_ok_iff.mpr ⟨place, hkeeps.locate hlocate, hget'⟩, fun rest => ?_⟩
  rw [← FileTree.look?_append hget', ← FileTree.look?_append hget, hlook]

/-- **The paths of the source files** below a directory, in increasing order. -/
theorem exists_sourcePaths (hd : d.tree.isProper = true) (h : d.get root = .ok tree)
    (hdirectory : tree.isDirectory = true) (rules : Rules) :
    ∃ paths, d.sourcePaths rules root = .ok paths ∧ paths.Pairwise (· < ·) ∧
      ∀ path, path ∈ paths ↔ ∃ directories file, FileTree.IsSource rules tree directories file ∧
        path = (directories ++ [file]).foldl Path.join root := by
  obtain ⟨place, -, hget⟩ := get_eq_ok_iff.mp h
  have hproper := (FileTree.isProper_of_get? hd hget).2
  cases tree with
  | file => cases hdirectory
  | directory entries =>
    refine ⟨_, by rw [sourcePaths, h],
      pairwise_mergeSort (FileTree.nodup_sourcesAmong rules root hproper), fun path => ?_⟩
    rw [List.mem_mergeSort, FileTree.mem_sourcesAmong rules root path hproper]

/-- **The source files below a root.** In a tree whose entries can be told apart, the paths of the
source files below a directory are listed in strictly increasing order: each path leads through
directories that are not ignored to a file that is not ignored and whose name ends as those of
source files do, and every such file has its path in the list. Another disk on which the same stands
at every place, whatever order its directories list their entries in, has the same list. Where there
is no directory, this is what is reported. -/
theorem sourcePaths_exact (hd : d.tree.isProper = true) (rules : Rules) (root : String) :
    (d.isDirectory root = false → d.sourcePaths rules root = .error (.noTree root)) ∧
    (d.isDirectory root = true → ∃ tree paths, d.get root = .ok tree ∧
      d.sourcePaths rules root = .ok paths ∧ paths.Pairwise (· < ·) ∧
      (∀ path, path ∈ paths ↔ ∃ directories file content,
        tree.look? (directories ++ [file]) = some (.file content) ∧
        (∀ name ∈ directories, name ∉ rules.ignoreDirs) ∧ file ∉ rules.ignoreFiles ∧
        (∃ ending ∈ rules.sourceExtensions, ending.toList <:+ file.toList) ∧
        path = (directories ++ [file]).foldl Path.join root) ∧
      ∀ d' : Disk, d'.tree.isProper = true → d'.workingDirectory = d.workingDirectory →
        (∀ place, d'.tree.look? place = d.tree.look? place) →
          d'.sourcePaths rules root = .ok paths) := by
  refine ⟨sourcePaths_of_not_isDirectory rules, fun hdirectory => ?_⟩
  obtain ⟨entries, hget⟩ := isDirectory_iff.mp hdirectory
  obtain ⟨paths, hpaths, hsorted, hmem⟩ := exists_sourcePaths hd hget rfl rules
  refine ⟨.directory entries, paths, hget, hpaths, hsorted, fun path => ?_,
    fun d' hd' hworking hlook => ?_⟩
  · rw [hmem]
    constructor
    · rintro ⟨directories, file, ⟨⟨content, hfile⟩, hentered, hignored, hends⟩, hpath⟩
      exact ⟨directories, file, content, hfile, hentered, hignored, hends, hpath⟩
    · rintro ⟨directories, file, content, hfile, hentered, hignored, hends, hpath⟩
      exact ⟨directories, file, ⟨⟨content, hfile⟩, hentered, hignored, hends⟩, hpath⟩
  · obtain ⟨tree', hget', hsame⟩ := exists_get_of_look? hworking hlook hget
    have hdirectory' : tree'.isDirectory = true := by
      have hsight := hsame []
      rw [FileTree.look?_nil, FileTree.look?_nil] at hsight
      cases tree' with
      | file => cases hsight
      | directory => rfl
    obtain ⟨paths', hpaths', hsorted', hmem'⟩ := exists_sourcePaths hd' hget' hdirectory' rules
    rw [hpaths', hsorted'.eq_of_mem_iff hsorted fun path => ?_]
    rw [hmem, hmem']
    simp only [FileTree.isSource_congr (hsame _)]

/-- Entries of a directory in an order of no kind: sources, files that are none, and a directory
that is ignored. -/
def workshopEntries : List (String × FileTree) :=
  [("lib", .directory [("z.ts", .file []), ("a.tsx", .file []), ("notes.md", .file [])]),
    ("b.ts", .file []), ("dist", .directory [("b.ts", .file [])]), ("a.ts", .file [])]

/-- A disk with the entries of the workshop below `src`. -/
def workshop : Disk := ⟨.directory [("src", .directory workshopEntries)], []⟩

/-- The workshop, with the entries the other way round. -/
def reversedWorkshop : Disk := ⟨.directory [("src", .directory workshopEntries.reverse)], []⟩

/-- The source files of the workshop are found in both of its orders, and none below a file. -/
theorem sourcePaths_exact_workshop :
    workshop.tree.isProper = true ∧
      workshop.sourcePaths {} "src/a.ts" = .error (.noTree "src/a.ts") ∧
      ∃ paths, workshop.sourcePaths {} "./src/" = .ok paths ∧ paths.Pairwise (· < ·) ∧
        "./src/lib/a.tsx" ∈ paths ∧ reversedWorkshop.sourcePaths {} "./src/" = .ok paths := by
  have hproper : workshop.tree.isProper = true := by decide +kernel
  have hroot : workshop.get "./src/" = .ok (.directory workshopEntries) := by rfl
  obtain ⟨hmissing, -⟩ := sourcePaths_exact hproper {} "src/a.ts"
  obtain ⟨-, hfound⟩ := sourcePaths_exact hproper {} "./src/"
  obtain ⟨tree, paths, hget, hpaths, hsorted, hmem, hsame⟩ := hfound (by decide +kernel)
  obtain rfl : tree = .directory workshopEntries := Except.ok.inj (hget.symm.trans hroot)
  refine ⟨hproper, hmissing (by decide +kernel), paths, hpaths, hsorted, ?_,
    hsame reversedWorkshop (by decide +kernel) rfl fun place => ?_⟩
  · exact (hmem "./src/lib/a.tsx").mpr ⟨["lib"], "a.tsx", [], by rfl, by decide, by decide,
      ⟨".tsx", by decide, by decide⟩, by decide +kernel⟩
  · cases place with
    | nil => rfl
    | cons first rest =>
      rw [workshop, reversedWorkshop, FileTree.look?_cons, FileTree.look?_cons,
        FileTree.entry?_cons, FileTree.entry?_cons]
      split
      · exact FileTree.look?_directory_of_perm (List.reverse_perm workshopEntries)
          (by decide +kernel) rest
      · rfl

end Disk

end SystemSketch
