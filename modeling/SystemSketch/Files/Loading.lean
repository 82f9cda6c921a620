import SystemSketch.Extraction.Source
import SystemSketch.Files.Disk
import SystemSketch.Files.Stream
import SystemSketch.Rules.Overrides
import SystemSketch.Yaml.Content

/-!
# Loading a project

The source files of a tree are those whose names the rules admit, below directories that the
rules do not ignore. They are taken up in the order of their paths, whatever order the entries
of the directories have.

## Main definitions

* `LoadError` — why something cannot be loaded.
* `Disk.sourcePaths` — the paths of the source files of a tree.
* `Disk.loadTree` — the source files of a tree.
* `Disk.loadRules` — the rules that a file gives.
-/

namespace SystemSketch

/-- Why something cannot be loaded. -/
inductive LoadError where
  /-- There is no directory at the root of a tree. -/
  | noTree (root : String)
  | rules (error : RulesError)
  | file (error : FileError)
  /-- A file is no text. -/
  | text (error : Text.Utf8.DecodeError)
  /-- A value of a document cannot be had. -/
  | value (fault : Yaml.Fault)
  deriving DecidableEq

namespace LoadError

/-- The text of an error. -/
def message : LoadError → String
  | noTree root => "Source tree not found: " ++ root
  | rules e => e.message
  | file e => e.message
  | text e => e.message
  | value fault => fault.message

/-- Whether an error is one that the user of the project can be told about: a missing tree, or
rules that are refused. -/
def isReported : LoadError → Bool
  | noTree _ => true
  | rules e => e.isRefusal
  | file _ | text _ | value _ => false

end LoadError

namespace Rules

/-- Whether files of a name are source files. -/
def reads (rules : Rules) (name : String) : Bool :=
  !rules.ignoreFiles.contains name &&
    rules.sourceExtensions.any fun ending => (Text.before? ending.toList name.toList).isSome

/-- Whether directories of a name hold sources. -/
def enters (rules : Rules) (name : String) : Bool :=
  !rules.ignoreDirs.contains name

end Rules

namespace FileTree

mutual

/-- The paths of the source files of an entry called `name` of the directory `above`. -/
def sourcesAt (rules : Rules) (above name : String) : FileTree → List String
  | file _ => if rules.reads name then [Path.join above name] else []
  | directory entries =>
    if rules.enters name then sourcesAmong rules (Path.join above name) entries else []

/-- The paths of the source files of the entries of the directory `above`. -/
def sourcesAmong (rules : Rules) (above : String) : List (String × FileTree) → List String
  | [] => []
  | (name, tree) :: entries => sourcesAt rules above name tree ++ sourcesAmong rules above entries

end

end FileTree

namespace Disk

/-- The paths of the source files below a root, sorted. -/
def sourcePaths (d : Disk) (rules : Rules) (root : String) : Except LoadError (List String) :=
  match d.get root with
  | .ok (.directory entries) =>
    .ok ((FileTree.sourcesAmong rules root entries).mergeSort fun a b => !(b < a : Bool))
  | _ => .error (.noTree root)

/-- The text of bytes, with line feeds between its lines. -/
def textOf (bytes : List UInt8) : Except LoadError String :=
  match Text.Utf8.decode bytes with
  | .ok cs => .ok (String.ofList (Text.withLineFeeds cs))
  | .error e => .error (.text e)

/-- A source file. -/
def loadSource (d : Disk) (path : String) : Except LoadError SourceFile := do
  let bytes ← (d.read path).mapError .file
  return ⟨path, ← textOf bytes⟩

/-- Source files in the given order. -/
def loadSources (d : Disk) (paths : List String) : Except LoadError (List SourceFile) :=
  paths.mapM d.loadSource

/-- The source files below a root. -/
def loadTree (d : Disk) (rules : Rules) (root : String) : Except LoadError (List SourceFile) := do
  d.loadSources (← d.sourcePaths rules root)

/-- What can be read of a rule file. The first two portions are read before anything is made of
them, and each of the others when the text before it is used up. -/
def sourceOf (bytes : List UInt8) :
    Except Text.Utf8.DecodeError (Yaml.Source × Option Text.Utf8.DecodeError) :=
  let stream : FileStream := { bytes := bytes }
  let (portions, error?) := stream.portions Yaml.pieceSize (bytes.length + 2)
  match error?, portions with
  | some e, [] | some e, [_] => .error e
  | error?, portions => .ok (⟨portions.flatten, error?.map fun _ => .cutOff⟩, error?)

/-- The document of a rule file. -/
def documentOf (path : String) (bytes : List UInt8) : Except LoadError Document := do
  let (source, error?) ← (sourceOf bytes).mapError .text
  (Yaml.read source).mapError fun fault =>
    match fault, error? with
    | .malformed, _ => .rules (.malformed path)
    | .cutOff, some e => .text e
    | fault, _ => .value fault

/-- The rules of a file, or the default ones without a file. -/
def loadRules (d : Disk) (path? : Option String) : Except LoadError Rules :=
  match path? with
  | none => .ok {}
  | some path =>
    if !d.leads path then .error (.rules (.notFound path))
    else do
      let bytes ← (d.read path).mapError .file
      let document ← documentOf path bytes
      (Rules.ofOptionalDocument path document).mapError .rules

end Disk

end SystemSketch
