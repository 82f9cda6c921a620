import SystemSketch.Path

/-!
# File trees

A file tree is a file with its bytes, or a directory whose entries are file trees under names.
A place in a tree is given by the names that lead to it from the top.

## Main definitions

* `FileTree` — the trees.
* `FileTree.get?` — what stands at a place.
* `FileTree.put` — a tree with something new at a place.
* `FileTree.files` — the files of a tree with their places.
-/

namespace SystemSketch

/-- A file, or a directory with its entries. -/
inductive FileTree where
  | file (content : List UInt8)
  | directory (entries : List (String × FileTree))

namespace FileTree

/-- A directory without entries. -/
def empty : FileTree := directory []

/-- Whether a tree is a directory. -/
def isDirectory : FileTree → Bool
  | directory _ => true
  | file _ => false

/-- The entry of a directory under a name. -/
def entry? (name : String) : FileTree → Option FileTree
  | directory entries => (entries.find? (·.1 == name)).map Prod.snd
  | file _ => none

/-- What stands at a place. -/
def get? (tree : FileTree) : Path.Directory → Option FileTree
  | [] => some tree
  | name :: names =>
    match tree.entry? name with
    | some below => below.get? names
    | none => none

/-- The entries of a directory with a tree under a name, in the place of what was there. -/
def enterUnder (name : String) (tree : FileTree) :
    List (String × FileTree) → List (String × FileTree)
  | [] => [(name, tree)]
  | (n, t) :: entries =>
    if n == name then (n, tree) :: entries else (n, t) :: enterUnder name tree entries

/-- A directory with a tree under a name. A file stays as it is. -/
def enter (tree : FileTree) (name : String) (new : FileTree) : FileTree :=
  match tree with
  | directory entries => directory (enterUnder name new entries)
  | file content => file content

/-- A tree with something new at a place. Directories that are missing on the way are made. -/
def put : FileTree → Path.Directory → FileTree → FileTree
  | _, [], new => new
  | tree, name :: names, new => tree.enter name (put ((tree.entry? name).getD empty) names new)

mutual

/-- The files of a tree with their places, each one below the place `above`. -/
def filesBelow (above : Path.Directory) : FileTree → List (Path.Directory × List UInt8)
  | file content => [(above, content)]
  | directory entries => filesOfEntries above entries

/-- The files of the entries of a directory. -/
def filesOfEntries (above : Path.Directory) :
    List (String × FileTree) → List (Path.Directory × List UInt8)
  | [] => []
  | (name, tree) :: entries => filesBelow (above ++ [name]) tree ++ filesOfEntries above entries

end

/-- The files of a tree with their places. -/
def files (tree : FileTree) : List (Path.Directory × List UInt8) :=
  filesBelow [] tree

end FileTree

end SystemSketch
