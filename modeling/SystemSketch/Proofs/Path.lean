import SystemSketch.Path
import SystemSketch.Proofs.Text.Search

/-!
# Laws of paths

A name is a segment that leads down. A name put behind a path leads one directory further than the
path, however the path is spelled: with a slash at its end, with `.` and `..` in it, from the root
or from the working directory, or not spelled at all. So the names that are put behind a path can
be had back from the two paths.

## Main definitions

* `Path.IsName` — whether a segment is the name of a file or a directory.

## Main results

* `Path.resolve_foldl_join` — names behind a path lead down from the place of the path.
* `Path.foldl_join_inj` — other names behind a path make another path.
* `Path.relative_foldl_join` — the way from a path to one with names behind it is made of the names.
-/

namespace SystemSketch.Path

/-- A **name** of a file or a directory: a segment that leads down from where it stands. -/
structure IsName (name : String) : Prop where
  leads : name ∉ ["", ".", ".."]
  noSlash : '/' ∉ name.toList

instance (name : String) : Decidable (IsName name) :=
  decidable_of_iff (name ∉ ["", ".", ".."] ∧ '/' ∉ name.toList)
    ⟨fun h => ⟨h.1, h.2⟩, fun h => ⟨h.1, h.2⟩⟩

variable {workingDirectory : Directory} {base name : String} {names : List String}

/-! ### Segments -/

/-- A path has a last segment. -/
theorem exists_segments (path : String) : ∃ front name, segments path = front ++ [name] := by
  refine (List.eq_nil_or_concat' (segments path)).resolve_left fun hnil => ?_
  exact Text.splitOn_ne_nil '/' path.toList (List.map_eq_nil_iff.mp hnil)

/-- A slash parts the segments of what stands before it and behind it. -/
theorem segments_append (front rest : String) :
    segments (front ++ "/" ++ rest) = segments front ++ segments rest := by
  have hslash : (front ++ "/" ++ rest).toList = front.toList ++ '/' :: rest.toList := by
    rw [String.toList_append, String.toList_append, List.append_assoc]
    rfl
  rw [segments, hslash, Text.splitOn_append_cons, List.map_append]
  rfl

/-- A name is one segment. -/
theorem IsName.segments_eq (h : IsName name) : segments name = [name] := by
  rw [segments, Text.splitOn_eq_singleton h.noSlash, List.map_singleton, String.ofList_toList]

/-- A name leads one directory down. -/
theorem follow_of_notMem {name : String} (h : name ∉ ["", ".", ".."]) (place : Directory) :
    follow place name = place ++ [name] := by
  simp only [List.mem_cons, List.not_mem_nil, or_false, not_or] at h
  simp [follow, h]

/-- A name does not begin at the root. -/
theorem IsName.isAbsolute_eq (h : IsName name) : isAbsolute name = false := by
  rw [isAbsolute, beq_eq_false_iff_ne]
  exact fun hslash => h.noSlash (List.mem_of_mem_head? hslash)

/-- What stands behind a path does not change where it begins. -/
theorem isAbsolute_append (h : base ≠ "") (rest : String) :
    isAbsolute (base ++ rest) = isAbsolute base := by
  have hne : base.toList ≠ [] := fun hnil => h (String.toList_eq_nil_iff.mp hnil)
  rw [isAbsolute, String.toList_append, List.head?_append_of_ne_nil _ hne, isAbsolute]

/-! ### Names behind a path -/

/-- How a name is put behind a path: the path is empty, it ends in a slash, or a slash is put
between them. -/
theorem join_cases (h : IsName name) (base : String) :
    (base = "" ∧ join base name = name) ∨
      (∃ front, base = front ++ "/" ∧ join base name = front ++ "/" ++ name) ∨
      (base ≠ "" ∧ join base name = base ++ "/" ++ name) := by
  rw [join, if_neg (by rw [h.isAbsolute_eq]; exact Bool.false_ne_true)]
  by_cases hempty : base = ""
  · subst hempty
    exact Or.inl ⟨rfl, String.empty_append⟩
  · by_cases hslash : base.toList.getLast? = some '/'
    · obtain ⟨front, hfront⟩ := List.getLast?_eq_some_iff.mp hslash
      have hbase : base = String.ofList front ++ "/" := by
        rw [← String.toList_inj, hfront, String.toList_append, String.toList_ofList]
        rfl
      refine Or.inr (Or.inl ⟨String.ofList front, hbase, ?_⟩)
      rw [if_pos (by simp [hslash]), ← hbase]
    · refine Or.inr (Or.inr ⟨hempty, ?_⟩)
      rw [if_neg (by simp [hempty, hslash])]

/-- A path with a name behind it leads **one directory further** than the path. -/
theorem resolve_join (workingDirectory : Directory) (base : String) (h : IsName name) :
    resolve workingDirectory (join base name) = resolve workingDirectory base ++ [name] := by
  rcases join_cases h base with ⟨rfl, hjoin⟩ | ⟨front, rfl, hjoin⟩ | ⟨hne, hjoin⟩
  · rw [hjoin, resolve, h.segments_eq, h.isAbsolute_eq, List.foldl_cons, List.foldl_nil,
      follow_of_notMem h.leads]
    rfl
  · have hne : front ++ "/" ≠ "" := by simp
    -- The empty segment behind the last slash leads nowhere else.
    have hbase : segments (front ++ "/") = segments front ++ [""] := by
      rw [← String.append_empty (s := front ++ "/"), segments_append]
      rfl
    rw [hjoin, resolve, segments_append, h.segments_eq, isAbsolute_append hne, resolve, hbase,
      List.foldl_concat, List.foldl_concat, follow_of_notMem h.leads]
    rfl
  · rw [hjoin, resolve, segments_append, h.segments_eq, String.append_assoc,
      isAbsolute_append hne, resolve, List.foldl_concat, follow_of_notMem h.leads]

/-- **Names behind a path** lead down from the place of the path. -/
theorem resolve_foldl_join (workingDirectory : Directory) (base : String)
    (h : ∀ name ∈ names, IsName name) :
    resolve workingDirectory (names.foldl join base) = resolve workingDirectory base ++ names := by
  induction names generalizing base with
  | nil => exact (List.append_nil _).symm
  | cons name names ih =>
    obtain ⟨hname, hnames⟩ := List.forall_mem_cons.mp h
    rw [List.foldl_cons, ih _ hnames, resolve_join _ _ hname, List.append_assoc,
      List.singleton_append]

/-- **Other names** behind a path make another path. -/
theorem foldl_join_inj {other : List String} (h : ∀ name ∈ names, IsName name)
    (hother : ∀ name ∈ other, IsName name) (heq : names.foldl join base = other.foldl join base) :
    names = other := by
  have hresolve := congrArg (resolve []) heq
  rw [resolve_foldl_join _ _ h, resolve_foldl_join _ _ hother] at hresolve
  exact List.append_cancel_left hresolve

/-- A path with a name behind it is not empty. -/
theorem join_ne_empty (h : IsName name) (base : String) : join base name ≠ "" := by
  have hname : name ≠ "" := fun hempty => h.leads (hempty ▸ List.mem_cons_self)
  rcases join_cases h base with ⟨-, hjoin⟩ | ⟨front, -, hjoin⟩ | ⟨-, hjoin⟩ <;> simp [hjoin, hname]

/-! ### The way back -/

/-- A place shares all its names with the places below it. -/
theorem dropShared_append (start names : List String) :
    dropShared start (start ++ names) = ([], names) := by
  induction start with
  | nil => cases names <;> rfl
  | cons a start ih => rw [List.cons_append, dropShared, if_pos (beq_self_eq_true a), ih]

/-- The way to a place below is made of the names that lead there. -/
theorem way_append (start : Directory) (names : List String) :
    way start (start ++ names) = names := by
  rw [way, dropShared_append]
  rfl

/-- **The way from a path** to one with names behind it is made of the names, however the path is
spelled. -/
theorem relative_foldl_join (workingDirectory : Directory) (base : String)
    (h : ∀ name ∈ names, IsName name) (hne : names ≠ []) :
    relative workingDirectory (names.foldl join base) base = String.intercalate "/" names := by
  rw [relative, resolve_foldl_join _ _ h, way_append]
  obtain ⟨first, rest, rfl⟩ := List.exists_cons_of_ne_nil hne
  rfl

end SystemSketch.Path
