/-!
# Settings

The environment gives the defaults of the options. A variable that is set holds, even if it is
empty.
-/

namespace SystemSketch.Command

/-- What the environment sets. -/
structure Settings where
  serverDir : String := "server/src"
  clientDir : String := "client/app"
  outputFile : String := "architecture.md"
  title : String := "Project Architecture Diagram"
  databaseUrl : String := "sqlite:///./archmap.db"
  resolvePending : Bool := false
  deriving DecidableEq

/-- Whether the value of a variable says yes, in any case. -/
def saysYes (value : String) : Bool :=
  ["1", "true", "yes"].contains (String.ofList (value.toList.map Char.toLower))

/-- The name of the variable of a setting. -/
def variableOf (setting : String) : String := "ARCHMAP_" ++ setting

/-- The variables that are looked at. -/
def variableNames : List String :=
  ["SERVER_DIR", "CLIENT_DIR", "OUTPUT_FILE", "TITLE", "DATABASE_URL", "RESOLVE_PENDING"].map
    variableOf

namespace Settings

/-- The settings of an environment, which gives the value of each variable that is set. -/
def ofEnvironment (environment : String → Option String) : Settings :=
  let value setting default := (environment (variableOf setting)).getD default
  { serverDir := value "SERVER_DIR" ({} : Settings).serverDir
    clientDir := value "CLIENT_DIR" ({} : Settings).clientDir
    outputFile := value "OUTPUT_FILE" ({} : Settings).outputFile
    title := value "TITLE" ({} : Settings).title
    databaseUrl := value "DATABASE_URL" ({} : Settings).databaseUrl
    resolvePending := saysYes (value "RESOLVE_PENDING" "false") }

end Settings

end SystemSketch.Command
