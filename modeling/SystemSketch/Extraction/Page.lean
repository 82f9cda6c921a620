import SystemSketch.Path

/-!
# The identity of a page

A page of the client is a file, and its place below the root of the client is its address. The
name of a page file stands for the directory it is in.

## Main definitions

* `PageRoot` — the root of the client, as it is spelled, and where it is understood from.
* `PageRoot.address` — the address of a page file.
* `pageId`, `pageLabel` — the identifier and the label of the page at an address.
-/

namespace SystemSketch

/-- The root directory of the client's pages. -/
structure PageRoot where
  /-- The directory from which paths are understood. -/
  workingDirectory : Path.Directory
  /-- The path of the root, as it is spelled. -/
  path : String
  deriving DecidableEq

/-- Why a file has no address. -/
inductive PageError where
  /-- The path of the file is empty. -/
  | noPath
  deriving DecidableEq

/-- The text of an error. -/
def PageError.message : PageError → String
  | .noPath => "no path specified"

/-- A path without the first of the page file names that is its last segment. The slash before
the name goes with it. -/
def withoutPageName (names : List String) (path : List Char) : List Char :=
  match names with
  | [] => path
  | name :: rest =>
    if path = name.toList then []
    else
      match Text.before? ('/' :: name.toList) path with
      | some directory => directory
      | none => withoutPageName rest path

/-- The address of a page file: its path below the root with slashes, without the name of a
page file. -/
def PageRoot.address (root : PageRoot) (names : List String) (path : String) :
    Except PageError String :=
  if path.isEmpty then .error .noPath
  else
    let relative := Path.relative root.workingDirectory path root.path
    let slashed := relative.toList.map fun c => if c == '\\' then '/' else c
    .ok (String.ofList (withoutPageName names slashed))

/-- The identifier of the page at an address. -/
def pageId (address : String) : String :=
  "Page(" ++ (if address.isEmpty then "/" else address) ++ ")"

/-- The label of the page at an address. -/
def pageLabel (address : String) : String :=
  "/" ++ address

end SystemSketch
