import SystemSketch.Document
import SystemSketch.Rules.Basic

/-!
# Overriding rules

A document overrides rules by a mapping from field names to values. The document is checked as
a whole before any field: unknown keys are reported first and all together, and then the first
field whose value does not fit.

## Main definitions

* `RulesError` — why a document does not give rules.
* `TextField`, `ListField` — the fields of rules by name.
* `Rules.ofDocument` — the default rules with the overrides of a document.
* `Rules.toDocument` — the document that gives back the rules.
-/

namespace SystemSketch

/-- Why two keys cannot be put in order. -/
inductive OrderFault where
  /-- These two kinds have no order. -/
  | kinds (left right : String)
  /-- One is a date, and one has a time of day. -/
  | dateAndTime
  /-- Only one of two times names its time zone. -/
  | zones
  deriving DecidableEq

/-- What is said about keys that cannot be put in order. -/
def OrderFault.message : OrderFault → String
  | kinds left right =>
    "'<' not supported between instances of '" ++ left ++ "' and '" ++ right ++ "'"
  | dateAndTime => "can't compare datetime.datetime to datetime.date"
  | zones => "can't compare offset-naive and offset-aware datetimes"

/-- Why rules cannot be had. `source` says where the overrides come from. -/
inductive RulesError where
  /-- There is no file at the path. -/
  | notFound (path : String)
  /-- The file at the path is no document. -/
  | malformed (path : String)
  /-- The document is no mapping. -/
  | notMapping (source : String)
  /-- The document has keys that are no fields. -/
  | unknownKeys (source : String) (keys : List String)
  /-- The value of a field is no list of texts. -/
  | notTexts (key source : String)
  /-- The value of a field is no text, or an empty one. -/
  | notText (key source : String)
  /-- The unknown keys cannot be listed, since this one is no text. -/
  | unnameableKey (index : Nat) (kind : String)
  /-- The unknown keys cannot be sorted. -/
  | unsortableKeys (fault : OrderFault)
  deriving DecidableEq

/-- The text of an error. -/
def RulesError.message : RulesError → String
  | notFound path => "Rules file not found: " ++ path
  | malformed path => "Invalid YAML in " ++ path
  | notMapping source => "Rules in " ++ source ++ " must be a mapping"
  | unknownKeys source keys =>
    "Unknown rule keys in " ++ source ++ ": " ++ String.intercalate ", " keys
  | notTexts key source => "Rule '" ++ key ++ "' in " ++ source ++ " must be a list of strings"
  | notText key source => "Rule '" ++ key ++ "' in " ++ source ++ " must be a non-empty string"
  | unnameableKey index kind =>
    "sequence item " ++ toString index ++ ": expected str instance, " ++ kind ++ " found"
  | unsortableKeys fault => fault.message

/-- Whether an error says that the rules are refused. The other errors come from keys that no
rules could have. -/
def RulesError.isRefusal : RulesError → Bool
  | unnameableKey .. | unsortableKeys _ => false
  | _ => true

/-! ### Fields -/

/-- The fields that hold a text. -/
inductive TextField where
  | persistenceService
  | apiBaseVariable
  | realtimeHook
  deriving DecidableEq

/-- The fields that hold a list of texts. -/
inductive ListField where
  | pageFilenames
  | sourceExtensions
  | ignoreDirs
  | ignoreFiles
  deriving DecidableEq

namespace TextField

/-- Every text field. -/
def all : List TextField := [.persistenceService, .apiBaseVariable, .realtimeHook]

/-- The name of a field. -/
def name : TextField → String
  | .persistenceService => "persistence_service"
  | .apiBaseVariable => "api_base_variable"
  | .realtimeHook => "realtime_hook"

/-- The field that bears a name. -/
def ofName? (name : String) : Option TextField :=
  all.find? (·.name == name)

/-- The value of a field. -/
def get (rules : Rules) : TextField → String
  | .persistenceService => rules.persistenceService
  | .apiBaseVariable => rules.apiBaseVariable
  | .realtimeHook => rules.realtimeHook

/-- Rules with another value of a field. -/
def set (value : String) (rules : Rules) : TextField → Rules
  | .persistenceService => { rules with persistenceService := value }
  | .apiBaseVariable => { rules with apiBaseVariable := value }
  | .realtimeHook => { rules with realtimeHook := value }

end TextField

namespace ListField

/-- Every list field. -/
def all : List ListField := [.pageFilenames, .sourceExtensions, .ignoreDirs, .ignoreFiles]

/-- The name of a field. -/
def name : ListField → String
  | .pageFilenames => "page_filenames"
  | .sourceExtensions => "source_extensions"
  | .ignoreDirs => "ignore_dirs"
  | .ignoreFiles => "ignore_files"

/-- The field that bears a name. -/
def ofName? (name : String) : Option ListField :=
  all.find? (·.name == name)

/-- The value of a field. -/
def get (rules : Rules) : ListField → List String
  | .pageFilenames => rules.pageFilenames
  | .sourceExtensions => rules.sourceExtensions
  | .ignoreDirs => rules.ignoreDirs
  | .ignoreFiles => rules.ignoreFiles

/-- Rules with another value of a field. -/
def set (values : List String) (rules : Rules) : ListField → Rules
  | .pageFilenames => { rules with pageFilenames := values }
  | .sourceExtensions => { rules with sourceExtensions := values }
  | .ignoreDirs => { rules with ignoreDirs := values }
  | .ignoreFiles => { rules with ignoreFiles := values }

end ListField

namespace Rules

/-- The names of all fields. -/
def fieldNames : List String :=
  TextField.all.map TextField.name ++ ListField.all.map ListField.name

/-! ### Unknown keys -/

/-- Whether a key is the name of a field. -/
def isKnown (key : Document) : Bool :=
  match key.asText? with
  | some name => fieldNames.contains name
  | none => false

/-- Why two keys cannot be put in order. -/
def orderFault? (a b : Document) : Option OrderFault :=
  match a, b with
  | .date _, .timestamp .. | .timestamp .., .date _ => some .dateAndTime
  | .timestamp _ p, .timestamp _ q => if p == q then none else some .zones
  | a, b =>
    if a.asNumber?.isSome && b.asNumber?.isSome then none
    else if a.kindName == b.kindName && a.kindName != "NoneType" then none
    else some (.kinds b.kindName a.kindName)

/-- Why the first two neighbours that cannot be put in order cannot. -/
def firstOrderFault? : List Document → Option OrderFault
  | a :: b :: keys => (orderFault? a b).or (firstOrderFault? (b :: keys))
  | _ => none

/-- Whether a key comes before another one, or with it. -/
def keyLe (a b : Document) : Bool :=
  match a.asNumber?, b.asNumber? with
  | some m, some n => !n.lt m
  | _, _ => true

/-- Why unknown keys are refused. They are listed in order; keys that are no texts cannot be
listed. -/
def unknownKeysError (source : String) (keys : List Document) : RulesError :=
  match keys.mapM Document.asText? with
  | some names => .unknownKeys source (names.mergeSort fun a b => !(b < a : Bool))
  | none =>
    match firstOrderFault? keys with
    | some fault => .unsortableKeys fault
    | none => .unnameableKey 0 (((keys.mergeSort keyLe).head?.map Document.kindName).getD "")

/-! ### Overrides -/

/-- Rules with the override of one entry. -/
def override (source : String) (rules : Rules) (entry : Document × Document) :
    Except RulesError Rules :=
  let key := entry.1.asText?.getD ""
  match ListField.ofName? key with
  | some field =>
    match entry.2.asTexts? with
    | some values => .ok (field.set values rules)
    | none => .error (.notTexts key source)
  | none =>
    match TextField.ofName? key with
    | none => .ok rules
    | some field =>
      match entry.2.asText? with
      | some value =>
        if value.isEmpty then .error (.notText key source) else .ok (field.set value rules)
      | none => .error (.notText key source)

/-- The default rules with the overrides of a document. -/
def ofDocument (source : String) : Document → Except RulesError Rules
  | .mapping entries =>
    match (entries.map Prod.fst).filter fun key => !isKnown key with
    | [] => entries.foldlM (override source) {}
    | unknown => .error (unknownKeysError source unknown)
  | _ => .error (.notMapping source)

/-- The rules of a document that may stand for nothing, which overrides nothing. -/
def ofOptionalDocument (source : String) (document : Document) : Except RulesError Rules :=
  if document.isFalsy then .ok {} else ofDocument source document

/-- The document that gives back the rules. -/
def toDocument (rules : Rules) : Document :=
  .mapping (
    TextField.all.map (fun field => (.text field.name, .text (field.get rules))) ++
    ListField.all.map (fun field =>
      (.text field.name, .list ((field.get rules).map .text))))

end Rules

end SystemSketch
