import SystemSketch.Command.Run

/-!
# The command line

The parts of the disk that the arguments name are taken into a file tree, on which the command
runs. The document that it writes there is then written to the disk.
-/

namespace SystemSketch.Command

/-- What stands at a path of the real disk. -/
partial def snapshot (path : String) : IO (Option FileTree) := do
  let target := (← IO.currentDir) / path
  if ← target.isDir then
    let mut entries := []
    for entry in ← target.readDir do
      if let some tree ← snapshot (Path.join path entry.fileName) then
        entries := (entry.fileName, tree) :: entries
    return some (.directory entries)
  else if ← target.pathExists then
    return some (.file (← IO.FS.readBinFile target).toList)
  else return none

/-- A disk with all that stands at a path. -/
def takeWhole (disk : Disk) (path : String) : IO Disk := do
  match ← snapshot path with
  | some tree => return disk.put (Path.resolve disk.workingDirectory path) tree
  | none => return disk

/-- A disk that knows whether there is a file or a directory at a path. -/
def takeKind (disk : Disk) (path : String) : IO Disk := do
  let place := Path.resolve disk.workingDirectory path
  let target := (← IO.currentDir) / path
  if (disk.tree.get? place).isSome then return disk
  else if ← target.isDir then return disk.put place .empty
  else if ← target.pathExists then return disk.put place (.file [])
  else return disk

/-- The disk with all that a run of options looks at. -/
def takeDisk (options : Options) : IO Disk := do
  let here := Path.resolve [] (← IO.currentDir).toString
  let disk : Disk := ⟨FileTree.empty.put here .empty, here⟩
  let roots := options.config?.toList ++ [options.serverRoot, options.clientRoot]
  let disk ← roots.foldlM takeWhole disk
  (Path.stages options.outputPath).foldlM takeKind disk

/-- The settings of the environment. -/
def readSettings : IO Settings := do
  let values ← variableNames.mapM fun name => return (name, ← IO.getEnv name)
  return .ofEnvironment fun name => (values.lookup name).join

/-- The disk that arguments look at. -/
def diskOf (settings : Settings) (arguments : List String) : IO Disk :=
  match Request.read settings arguments with
  | .ok (.draw options) => takeDisk options
  | _ => return ⟨.empty, []⟩

/-- Writes the document of a run to the real disk. -/
def writeDocument (run : Run) : IO Unit := do
  let some path := run.written? | return
  let .ok bytes := run.disk.read path | return
  let above := Path.parent path
  unless above.isEmpty do IO.FS.createDirAll above
  IO.FS.writeBinFile path (ByteArray.mk bytes.toArray)

end SystemSketch.Command

open SystemSketch.Command in
/-- Draws the project that the arguments name. -/
def main (arguments : List String) : IO UInt32 := do
  let settings ← readSettings
  let disk ← diskOf settings arguments
  match SystemSketch.Command.run settings arguments disk with
  | .error e =>
    IO.eprintln e.message
    return 1
  | .ok run =>
    writeDocument run
    for line in run.log do IO.eprintln line
    IO.print run.output
    return run.status.toUInt32
