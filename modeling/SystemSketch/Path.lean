import SystemSketch.Text.Search

/-!
# Paths

A path is read by its segments. It is understood from a working directory, which is given by
the names of the directories that lead to it. Paths are compared as they are written: nothing
is looked up.

## Main definitions

* `resolve` — the names that lead to a path.
* `relative` — the path that leads from one directory to another place.
* `join`, `parent`, `splitParent`, `stages` — paths put together and taken apart.
-/

namespace SystemSketch.Path

/-- The names that lead from the root to a directory. -/
abbrev Directory : Type := List String

/-- Whether a path begins at the root. -/
def isAbsolute (path : String) : Bool :=
  path.toList.head? == some '/'

/-- The texts between the slashes of a path. -/
def segments (path : String) : List String :=
  (Text.splitOn '/' path.toList).map String.ofList

/-- Follows one segment: an empty one and `.` stay, `..` goes up, and a name goes down. The
root has nothing above it. -/
def follow (place : Directory) (segment : String) : Directory :=
  if segment == "" || segment == "." then place
  else if segment == ".." then place.dropLast
  else place ++ [segment]

/-- The names that lead to a path. -/
def resolve (workingDirectory : Directory) (path : String) : Directory :=
  (segments path).foldl follow (if isAbsolute path then [] else workingDirectory)

/-- Two lists without the elements that both begin with. -/
def dropShared : List String → List String → List String × List String
  | a :: as, b :: bs => if a == b then dropShared as bs else (a :: as, b :: bs)
  | as, bs => (as, bs)

/-- The way from one directory to another place: up to what both share, and down from there. -/
def way (start target : Directory) : List String :=
  let (up, down) := dropShared start target
  up.map (fun _ => "..") ++ down

/-- The path that leads from the directory `start` to `path`. -/
def relative (workingDirectory : Directory) (path start : String) : String :=
  match way (resolve workingDirectory start) (resolve workingDirectory path) with
  | [] => "."
  | names => String.intercalate "/" names

/-- A path below another one. An absolute path stays as it is. -/
def join (base path : String) : String :=
  if isAbsolute path then path
  else if base.isEmpty || base.toList.getLast? == some '/' then base ++ path
  else base ++ "/" ++ path

/-- A path cut after its last slash: what is before it, without the slashes at its end unless
it has nothing else, and the last segment. -/
def splitParent (path : String) : String × String :=
  match Text.splitLast? '/' path.toList with
  | none => ("", path)
  | some (before, last) =>
    let front := before ++ ['/']
    let trimmed := (front.reverse.dropWhile (· == '/')).reverse
    (String.ofList (if trimmed.isEmpty then front else trimmed), String.ofList last)

/-- What a path passes, and the path itself: it is cut behind every segment that is not empty. -/
def stages (path : String) : List String :=
  let pieces := segments path
  ((List.range pieces.length).filter fun i => pieces[i]?.getD "" != "").map fun i =>
    String.intercalate "/" (pieces.take (i + 1))

/-- What stands before the last segment of a path. -/
def parent (path : String) : String :=
  (splitParent path).1

end SystemSketch.Path
