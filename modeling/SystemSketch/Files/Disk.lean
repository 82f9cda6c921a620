import SystemSketch.Files.Tree
import SystemSketch.Text.Quoted

/-!
# The disk

A disk is a file tree with a working directory. A path is followed segment by segment, and
every segment but the last one must lead to a directory that is there: `a/../b` leads nowhere
if `a` is missing.

## Main definitions

* `FileError` — why a path cannot be used.
* `Disk.locate` — the place that a path leads to.
* `Disk.read`, `Disk.write`, `Disk.makeDirectories` — what can be done with a path.
-/

namespace SystemSketch

/-- Why a path cannot be used. -/
inductive FileFault where
  | notFound
  | present
  | notDirectory
  | isDirectory
  | nameTooLong
  /-- The path holds a character that no name has. -/
  | unnameable
  deriving DecidableEq

/-- A path with the reason why it cannot be used. -/
structure FileError where
  fault : FileFault
  path : String
  deriving DecidableEq

namespace FileFault

/-- The number of a fault, by which systems know it. -/
def number : FileFault → Nat
  | notFound => 2
  | present => 17
  | notDirectory => 20
  | isDirectory => 21
  | unnameable => 22
  | nameTooLong => 36

/-- What is said about a fault. -/
def text : FileFault → String
  | notFound => "No such file or directory"
  | present => "File exists"
  | notDirectory => "Not a directory"
  | isDirectory => "Is a directory"
  | unnameable => "embedded null byte"
  | nameTooLong => "File name too long"

end FileFault

/-- The text of an error. -/
def FileError.message (e : FileError) : String :=
  if e.fault = .unnameable then e.fault.text
  else "[Errno " ++ toString e.fault.number ++ "] " ++ e.fault.text ++ ": " ++ Text.quote e.path

/-- A file tree and the place from which paths are understood. -/
structure Disk where
  tree : FileTree
  workingDirectory : Path.Directory

namespace Disk

/-- The greatest number of bytes of a name. -/
def nameLimit : Nat := 255

/-- The greatest number of bytes of a path. -/
def pathLimit : Nat := 4095

/-- Where paths start from. -/
def start (d : Disk) (path : String) : Path.Directory :=
  if Path.isAbsolute path then [] else d.workingDirectory

/-- Whether there is a directory at a place. -/
def hasDirectory (d : Disk) (place : Path.Directory) : Bool :=
  match d.tree.get? place with
  | some tree => tree.isDirectory
  | none => false

/-- Follows segments from a place. -/
def walk (d : Disk) (place : Path.Directory) : List String → Except FileFault Path.Directory
  | [] => .ok place
  | segment :: segments =>
    let next := Path.follow place segment
    if !d.hasDirectory place then .error .notDirectory
    else if nameLimit < segment.utf8ByteSize then .error .nameTooLong
    else if (d.tree.get? next).isNone then .error .notFound
    else d.walk next segments

/-- A fault of a path as an error. -/
def blame {α : Type} (path : String) (r : Except FileFault α) : Except FileError α :=
  r.mapError fun fault => ⟨fault, path⟩

/-- Whether a path can be followed at all: all its characters may be in names, it is not empty,
and it is not too long. -/
def checkNamed (path : String) : Except FileFault Unit :=
  if path.toList.contains '\x00' then .error .unnameable
  else if path.isEmpty then .error .notFound
  else if pathLimit < path.utf8ByteSize then .error .nameTooLong
  else .ok ()

/-- The place that a path leads to. -/
def locate (d : Disk) (path : String) : Except FileError Path.Directory :=
  blame path do
    checkNamed path
    d.walk (d.start path) (Path.segments path)

/-- The place where an entry can be made: the path leads to a directory that is there, with one
new name in it. -/
def vacancy (d : Disk) (path : String) : Except FileFault Path.Directory := do
  checkNamed path
  let segments := Path.segments path
  let name := segments.getLastD ""
  let place ← d.walk (d.start path) segments.dropLast
  if !d.hasDirectory place then throw .notDirectory
  else if ["", ".", ".."].contains name then throw .isDirectory
  else if nameLimit < name.utf8ByteSize then throw .nameTooLong
  else return place ++ [name]

/-- Whether a path leads to something. -/
def leads (d : Disk) (path : String) : Bool :=
  (d.locate path).toOption.isSome

/-- Whether a path leads to a directory. -/
def isDirectory (d : Disk) (path : String) : Bool :=
  match d.locate path with
  | .ok place => d.hasDirectory place
  | .error _ => false

/-- The disk with something new at a place. -/
def put (d : Disk) (place : Path.Directory) (new : FileTree) : Disk :=
  { d with tree := d.tree.put place new }

/-- What a path leads to. -/
def get (d : Disk) (path : String) : Except FileError FileTree := do
  match d.tree.get? (← d.locate path) with
  | some tree => return tree
  | none => throw ⟨.notFound, path⟩

/-- The bytes of a file. -/
def read (d : Disk) (path : String) : Except FileError (List UInt8) := do
  match ← d.get path with
  | .file content => return content
  | .directory _ => throw ⟨.isDirectory, path⟩

/-- Writes a file, a new one or in the place of an old one. -/
def write (d : Disk) (path : String) (content : List UInt8) : Except FileError Disk :=
  match d.locate path with
  | .ok place =>
    if d.hasDirectory place then .error ⟨.isDirectory, path⟩
    else .ok (d.put place (.file content))
  | .error _ => do
    let place ← blame path (d.vacancy path)
    return d.put place (.file content)

/-- Makes a directory. -/
def makeDirectory (d : Disk) (path : String) : Except FileError Disk :=
  if d.leads path then .error ⟨.present, path⟩
  else do
    let place ← blame path (d.vacancy path)
    return d.put place .empty

/-- Makes a directory, and before it those above it if what is above it is missing. That there is
something already is no error if it is a directory, nor if it stands above. What has been made
before an error stays. -/
def makeAll (d : Disk) (path : String) : (fuel : Nat) → Disk × Option FileError
  | 0 => (d, none)
  | fuel + 1 =>
    let (above, name) := Path.splitParent path
    let isMissing := !above.isEmpty && !name.isEmpty && !d.leads above
    let (d, error?) := if isMissing then d.makeAll above fuel else (d, none)
    match error?.filter fun e => e.fault != .present with
    | some e => (d, some e)
    | none =>
      if isMissing && name == "." then (d, none)
      else
        match d.makeDirectory path with
        | .ok d => (d, none)
        | .error e => (d, if d.isDirectory path then none else some e)

/-- Makes a directory and those above it that are missing. -/
def makeDirectories (d : Disk) (path : String) : Except FileError Disk :=
  match d.makeAll path (path.length + 1) with
  | (d, none) => .ok d
  | (_, some e) => .error e

/-- Writes a file after making the directories above it. -/
def writeBelow (d : Disk) (path : String) (content : List UInt8) : Except FileError Disk := do
  let above := Path.parent path
  let d ← if above.isEmpty then pure d else d.makeDirectories above
  d.write path content

end Disk

end SystemSketch
