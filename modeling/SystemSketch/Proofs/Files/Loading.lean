import SystemSketch.Files.Loading
import SystemSketch.Proofs.Files.Disk

/-!
# When loading fails

A user is told about rules that are refused and about trees that are missing. Both can be seen
without loading anything else: a tree is missing exactly if there is no directory at its root.

## Main results

* `Disk.isDirectory_of_loadTree`, `Disk.not_isDirectory_of_loadTree` — what is reported about a
  tree is that it is missing.
* `Disk.refusal_of_loadRules` — what is reported about rules is that they are refused.
* `Disk.loadRules_of_documentOf` — the rules of a file that holds a document.
* `Disk.path_ne_empty_of_loadTree` — source files have paths.
-/

namespace SystemSketch

namespace Disk

variable {d : Disk} {rules : Rules} {root path : String} {e : LoadError}

/-- A file that can be read is at some place. -/
theorem exists_locate_of_read {bytes : List UInt8} (h : d.read path = .ok bytes) :
    ∃ place, d.locate path = .ok place := by
  rw [read, bind_eq_ok_iff] at h
  obtain ⟨tree, hget, -⟩ := h
  rw [get, bind_eq_ok_iff] at hget
  obtain ⟨place, hlocate, -⟩ := hget
  exact ⟨place, hlocate⟩

/-! ### Trees -/

/-- There is a directory at a root exactly if its entries can be had. -/
theorem isDirectory_iff :
    d.isDirectory root = true ↔ ∃ entries, d.get root = .ok (.directory entries) := by
  rw [isDirectory, get]
  cases hlocate : d.locate root with
  | error e => simp
  | ok place =>
    simp only [hasDirectory, bind_eq_ok_iff, Except.ok.injEq, exists_eq_left']
    cases d.tree.get? place with
    | none => simp
    | some tree => cases tree <;> simp [FileTree.isDirectory]

/-- Something about sources that are there fails for reasons that are not reported. -/
theorem isReported_of_loadSource (h : d.loadSource path = .error e) : e.isReported = false := by
  rw [loadSource, bind_eq_error_iff] at h
  rcases h with h | ⟨bytes, -, h⟩
  · obtain ⟨cause, -, rfl⟩ := mapError_eq_error_iff.mp h
    rfl
  · rw [bind_eq_error_iff] at h
    rcases h with h | ⟨text, -, h⟩
    · rw [textOf] at h
      split at h
      · cases h
      · cases h
        rfl
    · exact absurd h pure_ne_error

/-- Without a directory at the root there are no paths. -/
theorem sourcePaths_of_not_isDirectory (rules : Rules) (h : d.isDirectory root = false) :
    d.sourcePaths rules root = .error (.noTree root) := by
  rw [sourcePaths]
  split
  · next entries hget => exact absurd (isDirectory_iff.mpr ⟨entries, hget⟩) (by simp [h])
  · rfl

/-- A tree that is not there is missing. -/
theorem loadTree_of_not_isDirectory (rules : Rules) (h : d.isDirectory root = false) :
    d.loadTree rules root = .error (.noTree root) := by
  rw [loadTree, sourcePaths_of_not_isDirectory rules h]
  rfl

/-- **What is reported about a tree** is that it is missing. -/
theorem not_isDirectory_of_loadTree (h : d.loadTree rules root = .error e)
    (hreported : e.isReported = true) : d.isDirectory root = false := by
  rw [loadTree, bind_eq_error_iff] at h
  rcases h with h | ⟨paths, -, h⟩
  · rw [sourcePaths] at h
    split at h
    · cases h
    · next hget =>
      by_contra hdirectory
      obtain ⟨entries, hentries⟩ := isDirectory_iff.mp (Bool.not_eq_false _ ▸ hdirectory)
      exact hget entries hentries
  · obtain ⟨path, -, herror⟩ := exists_of_mapM_eq_error h
    rw [isReported_of_loadSource herror] at hreported
    cases hreported

/-- Source files have paths. -/
theorem path_ne_empty_of_loadTree {files : List SourceFile}
    (h : d.loadTree rules root = .ok files) :
    ∀ file ∈ files, file.path ≠ "" := by
  rw [loadTree, bind_eq_ok_iff] at h
  obtain ⟨paths, -, hfiles⟩ := h
  intro file hfile hempty
  obtain ⟨path, -, hload⟩ := exists_of_mem_mapM hfiles hfile
  rw [loadSource, bind_eq_ok_iff] at hload
  obtain ⟨bytes, hread, hload⟩ := hload
  rw [bind_eq_ok_iff] at hload
  obtain ⟨text, -, hload⟩ := hload
  cases hload
  obtain ⟨place, hlocate⟩ := exists_locate_of_read (mapError_eq_ok_iff.mp hread)
  obtain ⟨hnamed, -⟩ := locate_eq_ok_iff.mp hlocate
  dsimp only at hempty
  subst hempty
  simp [checkNamed] at hnamed

/-! ### Rules -/

/-- The document of a file is never a tree that is missing. -/
theorem documentOf_ne_noTree {bytes : List UInt8} :
    documentOf path bytes ≠ .error (.noTree root) := by
  rw [documentOf, Ne, bind_eq_error_iff]
  rintro (h | ⟨⟨source, error?⟩, -, h⟩)
  · obtain ⟨cause, -, hcause⟩ := mapError_eq_error_iff.mp h
    cases hcause
  · obtain ⟨fault, -, hfault⟩ := mapError_eq_error_iff.mp h
    split at hfault <;> cases hfault

/-- **What is reported about rules** is that they are refused. -/
theorem refusal_of_loadRules {path? : Option String} (h : d.loadRules path? = .error e)
    (hreported : e.isReported = true) :
    ∃ refusal, e = .rules refusal ∧ refusal.isRefusal = true := by
  cases e with
  | rules refusal => exact ⟨refusal, rfl, hreported⟩
  | file | text | value => cases hreported
  | noTree root =>
    cases path? with
    | none => cases h
    | some path =>
      rw [loadRules] at h
      split at h
      · cases h
      · rw [bind_eq_error_iff] at h
        rcases h with h | ⟨bytes, -, h⟩
        · obtain ⟨cause, -, hcause⟩ := mapError_eq_error_iff.mp h
          cases hcause
        · rw [bind_eq_error_iff] at h
          rcases h with h | ⟨document, -, h⟩
          · exact absurd h documentOf_ne_noTree
          · obtain ⟨cause, -, hcause⟩ := mapError_eq_error_iff.mp h
            cases hcause

/-- **The rules of a file** are those of the document that it holds. -/
theorem loadRules_of_documentOf {bytes : List UInt8} {document : Document}
    (hread : d.read path = .ok bytes) (hdocument : documentOf path bytes = .ok document) :
    d.loadRules (some path) = (Rules.ofOptionalDocument path document).mapError .rules := by
  obtain ⟨place, hlocate⟩ := exists_locate_of_read hread
  have hleads : ¬(!d.leads path) = true := by simp [leads, hlocate, Except.toOption]
  rw [loadRules, if_neg hleads, hread]
  change (documentOf path bytes >>= fun document =>
    (Rules.ofOptionalDocument path document).mapError .rules) = _
  rw [hdocument]
  rfl

end Disk

end SystemSketch
