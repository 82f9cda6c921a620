import SystemSketch.Extraction.Page
import SystemSketch.Proofs.Path

/-!
# Addresses of pages

The address of a page is made of the names that lead from the root to its file. They are the same
however the root is spelled and wherever it is understood from, because the root and the path of the
file are followed from the same place and go the same way until the root is reached. The last of the
names is left out if it is the name of a page file; a longer name that only ends in one is not.

## Main results

* `withoutPageName_append`, `withoutPageName_name` — the name of a page file is the whole last
  segment.
* `PageRoot.address_foldl_join` — the address of a file below the root.
* `PageRoot.identity_foldl_join` — its identifier and its label.
-/

namespace SystemSketch

variable {names directories : List String} {file : String}

/-! ### The name of a page file -/

/-- A path without a slash is left out if it is the name of a page file. -/
theorem withoutPageName_name (names : List String) (hfile : '/' ∉ file.toList) :
    withoutPageName names file.toList = if file ∈ names then [] else file.toList := by
  induction names with
  | nil => rfl
  | cons name names ih =>
    rw [withoutPageName]
    by_cases hname : file = name
    · rw [if_pos (congrArg String.toList hname), if_pos (hname ▸ List.mem_cons_self)]
    · have hbefore : Text.before? ('/' :: name.toList) file.toList = none := by
        rw [Option.eq_none_iff_forall_ne_some]
        intro front hfront
        have hpath := Text.before?_eq_some_iff.mp hfront
        exact hfile (hpath ▸ List.mem_append_right front List.mem_cons_self)
      rw [if_neg fun heq => hname (String.toList_inj.mp heq), hbefore]
      simp only [ih, List.mem_cons, hname, false_or]

/-- **The last segment** of a path is left out, with the slash before it, if it is the name of a
page file. -/
theorem withoutPageName_append (hnames : ∀ name ∈ names, '/' ∉ name.toList) (front : List Char)
    (hfile : '/' ∉ file.toList) :
    withoutPageName names (front ++ '/' :: file.toList) =
      if file ∈ names then front else front ++ '/' :: file.toList := by
  induction names with
  | nil => rfl
  | cons name names ih =>
    obtain ⟨hname, hrest⟩ := List.forall_mem_cons.mp hnames
    have hwhole : front ++ '/' :: file.toList ≠ name.toList := fun heq =>
      hname (heq ▸ List.mem_append_right front List.mem_cons_self)
    rw [withoutPageName, if_neg hwhole]
    by_cases hlast : file = name
    · rw [hlast, Text.before?_append, if_pos List.mem_cons_self]
    · have hbefore : Text.before? ('/' :: name.toList) (front ++ '/' :: file.toList) = none := by
        rw [Option.eq_none_iff_forall_ne_some]
        intro directory hdirectory
        -- both names stand behind the last slash
        have hsplit :
            Text.splitLast? '/' (front ++ '/' :: file.toList) = some (front, file.toList) :=
          Text.splitLast?_append hfile
        rw [Text.before?_eq_some_iff.mp hdirectory, Text.splitLast?_append hname] at hsplit
        exact hlast (String.toList_inj.mp (Prod.mk.inj (Option.some.inj hsplit)).2.symm)
      rw [hbefore]
      simp only [ih hrest, List.mem_cons, hlast, false_or]

/-! ### Files below the root -/

/-- The names that make the address of a file: without its own one if it is that of a page file. -/
def addressNames (names directories : List String) (file : String) : List String :=
  if file ∈ names then directories else directories ++ [file]

/-- The name of a page file is left out of a path that is made of names. -/
theorem withoutPageName_intercalate (hnames : ∀ name ∈ names, '/' ∉ name.toList)
    (hfile : '/' ∉ file.toList) :
    withoutPageName names (String.intercalate "/" (directories ++ [file])).toList =
      (String.intercalate "/" (addressNames names directories file)).toList := by
  by_cases hdirectories : directories = []
  · subst hdirectories
    rw [List.nil_append, String.intercalate_singleton, withoutPageName_name names hfile,
      addressNames]
    split
    · rfl
    · rw [List.nil_append, String.intercalate_singleton]
  · have hpath : (String.intercalate "/" (directories ++ [file])).toList =
        (String.intercalate "/" directories).toList ++ '/' :: file.toList := by
      rw [String.intercalate_append_of_ne_nil hdirectories (List.cons_ne_nil file []),
        String.intercalate_singleton, String.toList_append, String.toList_append,
        List.append_assoc]
      rfl
    rw [hpath, withoutPageName_append hnames _ hfile, addressNames]
    split
    · rfl
    · exact hpath.symm

/-- What is written with slashes between names has no other separators in it. -/
theorem map_slash_intercalate (h : ∀ name ∈ names, '\\' ∉ name.toList) :
    (String.intercalate "/" names).toList.map (fun c => if c = '\\' then '/' else c) =
      (String.intercalate "/" names).toList := by
  refine (List.map_congr_left fun c hc => ?_).trans (List.map_id _)
  rw [if_neg, id]
  rintro rfl
  rw [String.toList_intercalate] at hc
  rcases Text.mem_intercalate hc with hslash | ⟨piece, hpiece, hmem⟩
  · exact absurd hslash (by decide)
  · obtain ⟨name, hname, rfl⟩ := List.mem_map.mp hpiece
    exact h name hname hmem

/-- **The address of a file below the root** is made of the names that lead to it from there. -/
theorem PageRoot.address_foldl_join (root : PageRoot)
    (hnames : ∀ name ∈ names, '/' ∉ name.toList)
    (hpath : ∀ name ∈ directories ++ [file], Path.IsName name ∧ '\\' ∉ name.toList) :
    root.address names ((directories ++ [file]).foldl Path.join root.path) =
      .ok (String.intercalate "/" (addressNames names directories file)) := by
  have hfile := (hpath file (by simp)).1
  have hne : (directories ++ [file]).foldl Path.join root.path ≠ "" := by
    rw [List.foldl_concat]
    exact Path.join_ne_empty hfile _
  rw [PageRoot.address, if_neg (by simpa using hne),
    Path.relative_foldl_join _ _ (fun name hname => (hpath name hname).1) (by simp)]
  simp only [beq_iff_eq]
  rw [map_slash_intercalate fun name hname => (hpath name hname).2,
    withoutPageName_intercalate hnames hfile.noSlash, String.ofList_toList]

/-- The identifier of a page names its address, and the address of the root page by a slash. -/
theorem pageId_intercalate (h : "" ∉ names) :
    pageId (String.intercalate "/" names) =
      if names = [] then "Page(/)" else "Page(" ++ String.intercalate "/" names ++ ")" := by
  cases names with
  | nil => rfl
  | cons first rest =>
    have hne : String.intercalate "/" (first :: rest) ≠ "" := by
      intro hempty
      have hfirst := Text.prefix_intercalate '/' first.toList (rest.map String.toList)
      rw [← List.map_cons, show ['/'] = "/".toList from rfl, ← String.toList_intercalate, hempty,
        String.toList_empty, List.prefix_nil, String.toList_eq_nil_iff] at hfirst
      exact h (hfirst ▸ List.mem_cons_self)
    rw [pageId, if_neg (by simpa using hne), if_neg (List.cons_ne_nil first rest)]

/-- **The identity of a page does not depend on how the root is spelled.** Whatever the root and the
directory are from which it is understood, a file that names lead to from the root has an address.
Its label shows the names, without the last one if it is the name of a page file, and its identifier
holds the same names, or a slash if none is left. -/
theorem PageRoot.identity_foldl_join (root : PageRoot)
    (hnames : ∀ name ∈ names, '/' ∉ name.toList)
    (hpath : ∀ name ∈ directories ++ [file],
      name ∉ ["", ".", ".."] ∧ '/' ∉ name.toList ∧ '\\' ∉ name.toList) :
    let shown := if file ∈ names then directories else directories ++ [file]
    ∃ address,
      root.address names ((directories ++ [file]).foldl Path.join root.path) = .ok address ∧
      pageId address =
        (if shown = [] then "Page(/)" else "Page(" ++ String.intercalate "/" shown ++ ")") ∧
      pageLabel address = "/" ++ String.intercalate "/" shown := by
  intro shown
  have hproper : ∀ name ∈ directories ++ [file], Path.IsName name ∧ '\\' ∉ name.toList :=
    fun name hname => ⟨⟨(hpath name hname).1, (hpath name hname).2.1⟩, (hpath name hname).2.2⟩
  have hshown : shown ⊆ directories ++ [file] := by
    dsimp only [shown]
    split
    · exact List.subset_append_left directories [file]
    · exact List.Subset.refl _
  refine ⟨_, root.address_foldl_join hnames hproper, pageId_intercalate fun hempty => ?_, rfl⟩
  exact (hpath "" (hshown hempty)).1 List.mem_cons_self

/-- A root that is spelled with a way up, a double slash, a dot and a slash at its end. The first
page name is only the end of the file name, the second one is the file name itself. -/
theorem PageRoot.identity_foldl_join_winding :
    let root : PageRoot := ⟨["work", "project"], "../client//app/./"⟩
    let path := "../client//app/./shop/..x/home.page.tsx"
    ["shop", "..x", "home.page.tsx"].foldl Path.join root.path = path ∧
      ∃ address, root.address ["page.tsx", "home.page.tsx"] path = .ok address ∧
        pageId address = "Page(shop/..x)" ∧ pageLabel address = "/shop/..x" := by
  intro root path
  have hpath : ["shop", "..x", "home.page.tsx"].foldl Path.join root.path = path := by
    decide +kernel
  obtain ⟨address, haddress, hid, hlabel⟩ := @PageRoot.identity_foldl_join
    ["page.tsx", "home.page.tsx"] ["shop", "..x"] "home.page.tsx" root (by decide +kernel)
    (by decide +kernel)
  rw [List.cons_append, List.cons_append, List.nil_append, hpath] at haddress
  exact ⟨hpath, address, haddress, hid, hlabel⟩

end SystemSketch
