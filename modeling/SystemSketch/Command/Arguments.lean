import SystemSketch.Command.Settings
import SystemSketch.Text.DecimalDigit
import SystemSketch.Text.Quoted
import SystemSketch.Text.Search

/-!
# The arguments of the command

The command takes options only. An option may be shortened as long as it stays the only one
that begins in this way, and its value is the next argument or follows an equals sign. All
arguments are recognised before the first one is taken up, so an ambiguous one is reported
before anything else; what belongs to no option is reported last.

## Main definitions

* `Opt` — the options.
* `Options` — what the arguments ask for.
* `UsageError` — why arguments cannot be used.
* `Word.recognize` — what an argument is.
* `Request.read` — what arguments ask for.
-/

namespace SystemSketch.Command

/-- The options. -/
inductive Opt where
  | help
  | projectRoot
  | serverDir
  | clientDir
  | output
  | title
  | noTitle
  | config
  | resolvePending
  | stdout
  | strict
  deriving DecidableEq

namespace Opt

/-- Every option. -/
def all : List Opt :=
  [help, projectRoot, serverDir, clientDir, output, title, noTitle, config, resolvePending, stdout,
    strict]

/-- The name of an option. -/
def name : Opt → String
  | help => "--help"
  | projectRoot => "--project-root"
  | serverDir => "--server-dir"
  | clientDir => "--client-dir"
  | output => "--output"
  | title => "--title"
  | noTitle => "--no-title"
  | config => "--config"
  | resolvePending => "--resolve-pending"
  | stdout => "--stdout"
  | strict => "--strict"

/-- An option with all its names, as messages show it. -/
def shown : Opt → String
  | help => "-h/--help"
  | o => o.name

/-- Whether an option takes a value. -/
def takesValue : Opt → Bool
  | projectRoot | serverDir | clientDir | output | title | config => true
  | help | noTitle | resolvePending | stdout | strict => false

/-- What an option is for. -/
def purpose : Opt → String
  | help => "show this help"
  | projectRoot => "root of the project"
  | serverDir => "server tree, relative to the root"
  | clientDir => "client tree, relative to the root"
  | output => "document to write, relative to the root"
  | title => "heading above the diagram"
  | noTitle => "leave out the heading"
  | config => "YAML file with overrides of the rules"
  | resolvePending => "ask open questions again after all files are read"
  | stdout => "print the document instead of writing it"
  | strict => "exit with status 2 if validation reports errors or warnings"

end Opt

/-- What the arguments ask for. -/
structure Options where
  projectRoot : String := "."
  serverDir : String
  clientDir : String
  output : String
  title : String
  noTitle : Bool := false
  config? : Option String := none
  resolvePending : Bool
  stdout : Bool := false
  strict : Bool := false
  deriving DecidableEq

/-- Why arguments cannot be used. -/
inductive UsageError where
  /-- An argument is short for each of these options. -/
  | ambiguous (argument : String) (options : List Opt)
  /-- No value follows an option that takes one. -/
  | noValue (option : Opt)
  /-- A value is given to an option that takes none. -/
  | unusedValue (option : Opt) (value : String)
  /-- These arguments belong to no option. -/
  | unrecognized (arguments : List String)
  deriving DecidableEq

/-- The text of an error. -/
def UsageError.message : UsageError → String
  | ambiguous argument options =>
    "ambiguous option: " ++ argument ++ " could match " ++
      String.intercalate ", " (options.map Opt.name)
  | noValue option => "argument " ++ option.shown ++ ": expected one argument"
  | unusedValue option value =>
    "argument " ++ option.shown ++ ": ignored explicit argument " ++ Text.quote value
  | unrecognized arguments => "unrecognized arguments: " ++ String.intercalate " " arguments

/-! ### Recognising arguments -/

/-- What an argument is. -/
inductive Word where
  /-- A value, or nothing that belongs here. -/
  | plain
  /-- It looks like an option but is none, or it ends the options. -/
  | foreign
  /-- An option, perhaps with a value behind an equals sign. -/
  | option (option : Opt) (value? : Option String)
  /-- The short form of the help option, with the text behind it or behind an equals sign. -/
  | shortHelp (rest : List Char)
  deriving DecidableEq

/-- Whether a text is a negative number with or without a fraction. A line feed may follow. -/
def isNegativeNumber (text : List Char) : Bool :=
  match text with
  | '-' :: number =>
    let number := if number.getLast? == some '\n' then number.dropLast else number
    let whole := number.takeWhile Text.isDecimalDigit
    match number.drop whole.length with
    | [] => !whole.isEmpty
    | '.' :: fraction => !fraction.isEmpty && fraction.all Text.isDecimalDigit
    | _ => false
  | _ => false

/-- What an argument that begins like an option is if no option has such a name. -/
def unnamed (text : List Char) : Word :=
  if isNegativeNumber text || text.contains ' ' then .plain else .foreign

/-- An argument cut at its first equals sign. -/
def cutValue (text : List Char) : List Char × Option String :=
  let name := text.takeWhile (· != '=')
  match text.drop name.length with
  | [] => (name, none)
  | _ :: value => (name, some (String.ofList value))

/-- The options whose names begin with a text. -/
def beginningWith (text : List Char) : List Opt :=
  Opt.all.filter fun o => (Text.after? text o.name.toList).isSome

/-- What an argument is that begins with two dashes. -/
def recognizeLong (argument : String) : Except UsageError Word :=
  let (name, value?) := cutValue argument.toList
  match Opt.all.find? (·.name.toList == name), beginningWith name with
  | some o, _ => .ok (.option o value?)
  | none, [o] => .ok (.option o value?)
  | none, [] => .ok (unnamed argument.toList)
  | none, options => .error (.ambiguous argument options)

/-- What an argument is, before the options end. -/
def Word.recognize (argument : String) : Except UsageError Word :=
  match argument.toList with
  | '-' :: '-' :: _ => recognizeLong argument
  | ['-', 'h'] => .ok (.option .help none)
  | '-' :: 'h' :: '=' :: rest | '-' :: 'h' :: rest => .ok (.shortHelp rest)
  | ['-'] => .ok .plain
  | '-' :: rest => .ok (unnamed ('-' :: rest))
  | _ => .ok .plain

/-- What each of several arguments is. Two dashes end the options. -/
def recognizeAll : List String → Except UsageError (List (String × Word))
  | [] => .ok []
  | argument :: arguments =>
    if argument == "--" then
      .ok ((argument, .foreign) :: arguments.map fun a => (a, .plain))
    else do
      let word ← Word.recognize argument
      let words ← recognizeAll arguments
      return (argument, word) :: words

/-! ### Taking up options -/

namespace Options

/-- The options that no argument asks for. -/
def ofSettings (settings : Settings) : Options where
  serverDir := settings.serverDir
  clientDir := settings.clientDir
  output := settings.outputFile
  title := settings.title
  resolvePending := settings.resolvePending

/-- Options with the value of one of them. -/
def set (options : Options) (value : String) : Opt → Options
  | .projectRoot => { options with projectRoot := value }
  | .serverDir => { options with serverDir := value }
  | .clientDir => { options with clientDir := value }
  | .output => { options with output := value }
  | .title => { options with title := value }
  | .config => { options with config? := some value }
  | .help | .noTitle | .resolvePending | .stdout | .strict => options

/-- Options with one of them that takes no value. -/
def switch (options : Options) : Opt → Options
  | .noTitle => { options with noTitle := true }
  | .resolvePending => { options with resolvePending := true }
  | .stdout => { options with stdout := true }
  | .strict => { options with strict := true }
  | .help | .projectRoot | .serverDir | .clientDir | .output | .title | .config => options

end Options

/-- What a command line asks for. -/
inductive Request where
  | help
  | draw (options : Options)
  deriving DecidableEq

/-- Reads what stands behind the short form of the help option. Only the letter may stand there,
once or more often. -/
def readShortHelp : List Char → Except UsageError Request
  | ['h'] => .ok .help
  | 'h' :: rest => readShortHelp rest
  | value => .error (.unusedValue .help (String.ofList value))

/-- Takes up words one after the other. `unused` are those before them that belong to no
option. -/
def take (options : Options) (unused : List String) :
    List (String × Word) → Except UsageError Request
  | [] => if unused.isEmpty then .ok (.draw options) else .error (.unrecognized unused)
  | (argument, .plain) :: words | (argument, .foreign) :: words =>
    take options (unused ++ [argument]) words
  | (_, .shortHelp rest) :: _ => readShortHelp rest
  | (_, .option o (some value)) :: words =>
    if o.takesValue then take (options.set value o) unused words
    else .error (.unusedValue o value)
  | (_, .option o none) :: words =>
    if o == .help then .ok .help
    else if o.takesValue then
      match words with
      | (value, .plain) :: words => take (options.set value o) unused words
      | _ => .error (.noValue o)
    else take (options.switch o) unused words

/-- What arguments ask for. -/
def Request.read (settings : Settings) (arguments : List String) : Except UsageError Request := do
  take (.ofSettings settings) [] (← recognizeAll arguments)

end SystemSketch.Command
