import SystemSketch.Analysis
import SystemSketch.Command.Arguments
import SystemSketch.Diagram.Markdown
import SystemSketch.Files.Loading

/-!
# Running the command

The command loads the rules and both trees of a project, analyses it, and writes the document
with its diagram to a file or to the output. Nothing is written if something cannot be loaded.
A strict run differs from any other one only in its exit status and in what it says at the end.

## Main definitions

* `Run` — what a run leaves behind.
* `Failure` — why a run breaks off.
* `Options.load` — the project that options name.
* `Options.run`, `run` — the run of options, and of arguments.
-/

namespace SystemSketch.Command

/-- What a run of the command leaves behind. -/
structure Run where
  /-- The exit status. -/
  status : Nat
  /-- What is printed. -/
  output : String := ""
  /-- The lines that the run writes about itself. -/
  log : List String := []
  disk : Disk
  /-- The path of the document, if it is written to the disk. -/
  written? : Option String := none
  /-- Why nothing could be drawn. -/
  refusal? : Option LoadError := none

/-- Why a run breaks off without an exit status of its own. -/
inductive Failure where
  | load (error : LoadError)
  | page (error : PageError)
  deriving DecidableEq

/-- The text of a failure. -/
def Failure.message : Failure → String
  | .load e => e.message
  | .page e => e.message

namespace Options

/-- The root of the server tree. -/
def serverRoot (o : Options) : String :=
  Path.join o.projectRoot o.serverDir

/-- The root of the client tree. -/
def clientRoot (o : Options) : String :=
  Path.join o.projectRoot o.clientDir

/-- The path of the document. -/
def outputPath (o : Options) : String :=
  Path.join o.projectRoot o.output

/-- The title of the document. -/
def title? (o : Options) : Option String :=
  if o.noTitle then none else some o.title

/-- The project that options name. The rules are loaded first, the server tree before the
client tree. -/
def load (o : Options) (disk : Disk) : Except LoadError Project := do
  let rules ← disk.loadRules o.config?
  let serverFiles ← disk.loadTree rules o.serverRoot
  let clientFiles ← disk.loadTree rules o.clientRoot
  return {
    serverFiles := serverFiles
    clientFiles := clientFiles
    clientRoot := ⟨disk.workingDirectory, o.clientRoot⟩
    rules := rules
    resolvePending := o.resolvePending }

/-- The document with the drawing of an analysis. -/
def document (o : Options) (outcome : Outcome) : String :=
  Diagram.markdown outcome.diagram o.title?

/-- The first line of every run. -/
def openingLine : String := "[ARCHMAP] Analyzing project to generate the Mermaid diagram..."

/-- The line about something that went wrong. -/
def failureLine (reason : String) : String := "[ARCHMAP] ❌ " ++ reason

/-- The line about a document that is written. -/
def writtenLine (path : String) : String := "[ARCHMAP] ✅ Diagram written to '" ++ path ++ "'"

/-- A run that draws nothing. -/
def refuse (disk : Disk) (e : LoadError) : Run where
  status := 1
  log := [openingLine, failureLine e.message]
  disk := disk
  refusal? := some e

/-- Hands out the document: it is printed, or written to its file. -/
def deliver (o : Options) (disk : Disk) (outcome : Outcome) : Except FileError Run :=
  let log := openingLine :: outcome.log
  if o.stdout then
    .ok { status := 0, output := o.document outcome, log := log, disk := disk }
  else do
    let bytes := Text.Utf8.encode (o.document outcome).toList
    let disk ← disk.writeBelow o.outputPath bytes
    return {
      status := 0
      log := log ++ [writtenLine o.outputPath]
      disk := disk
      written? := some o.outputPath }

/-- What a strict run says about the model in the end. -/
def judge (o : Options) (outcome : Outcome) (run : Run) : Run :=
  if !o.strict then run
  else
    match Validation.check outcome.model true with
    | .ok _ => run
    | .error e => { run with status := 2, log := run.log ++ [failureLine e.message] }

/-- The run of options. -/
def run (o : Options) (disk : Disk) : Except Failure Run :=
  match o.load disk with
  | .error e => if e.isReported then .ok (refuse disk e) else .error (.load e)
  | .ok project => do
    let outcome ← (analyze project).mapError .page
    let run ← (o.deliver disk outcome).mapError fun e => .load (.file e)
    return o.judge outcome run

end Options

/-- The name of the command. -/
def commandName : String := "archmap"

/-- The help text. -/
def helpText : String :=
  "usage: " ++ commandName ++ " [options]\n\n" ++
    String.join (Opt.all.map fun o =>
      "  " ++ o.shown ++ (if o.takesValue then " VALUE" else "") ++ "  " ++ o.purpose ++ "\n")

/-- The run of arguments. -/
def run (settings : Settings) (arguments : List String) (disk : Disk) : Except Failure Run :=
  match Request.read settings arguments with
  | .error e =>
    .ok { status := 2, log := [commandName ++ ": error: " ++ e.message], disk := disk }
  | .ok .help => .ok { status := 0, output := helpText, disk := disk }
  | .ok (.draw options) => options.run disk

end SystemSketch.Command
