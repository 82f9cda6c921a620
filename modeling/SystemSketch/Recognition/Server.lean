import SystemSketch.Model.Component
import SystemSketch.Recognition.Pattern
import SystemSketch.Text.Blank
import SystemSketch.Text.Word

/-!
# Recognising server classes

A server file is recognised by its first exported class. A decorator anywhere in the file
says what the class is, and the parameter list of the first constructor says which classes it
is given.

## Main definitions

* `exportedClass`, `controllerMark`, `injectableMark`, `gatewayMark`, `constructorList`,
  `parameter` — the patterns.
* `Marker` — a decorator with the kind and the label that it gives; `markers` are the built-in
  ones, of which the first to match decides.
* `classify` — the marker that decides about a text.
* `constructorDependencies` — the declared types of the constructor's parameters.
-/

namespace SystemSketch.Recognition

open Text

/-! ### Patterns -/

/-- `export class` and a name. -/
def exportedClass : Pattern :=
  .reading "exported_class" fun text => do
    let rest ← after? "export class ".toList text
    let name := rest.takeWhile isWord
    if name.isEmpty then none else some ([name], rest.dropWhile isWord)

/-- A text between two equal quotes `mark` at the front, with what follows it. -/
def quotedBy? (mark : Char) (text : List Char) : Option (List Char × List Char) :=
  match text with
  | [] => none
  | c :: text =>
    if c == mark then
      match text.dropWhile (· != mark) with
      | [] => none
      | _ :: rest => some (text.takeWhile (· != mark), rest)
    else none

/-- The decorator of a controller with its route in quotes. The first named part is a route in
single quotes, the second one a route in double quotes; the other part is empty. -/
def controllerMark : Pattern :=
  .reading "controller" fun text => do
    let rest ← after? "@Controller(".toList text
    let rest := trimStart rest
    let (groups, rest) ←
      match quotedBy? '\x27' rest with
      | some (route, rest) => some ([route, []], rest)
      | none => (quotedBy? '\x22' rest).map fun (route, rest) => ([[], route], rest)
    let rest ← after? ")".toList (trimStart rest)
    return (groups, rest)

/-- The decorator of a service. -/
def injectableMark : Pattern :=
  .mark "injectable" "@Injectable("

/-- The decorator of a gateway. -/
def gatewayMark : Pattern :=
  .mark "gateway" "@WebSocketGateway("

/-- The word `constructor` with the text between its parentheses; the first closing one ends
the list. -/
def constructorList : Pattern :=
  .reading "constructor" fun text => do
    let rest ← after? "constructor(".toList text
    match rest.dropWhile (· != ')') with
    | [] => none
    | _ :: after => some ([rest.takeWhile (· != ')')], after)

/-- `text` itself, and `text` without each of the `words` that it begins with. -/
def withoutOptional (words : List String) (text : List Char) : List (List Char) :=
  text :: words.filterMap fun word => after? word.toList text

/-- Whether a text is a parameter name with optional modifiers before it: a visibility, then
`readonly`, each of which may also be left to the name. -/
def namesParameter (text : List Char) : Bool :=
  (withoutOptional ["private", "public", "protected"] text).any fun text =>
    (withoutOptional ["readonly"] (trimStart text)).any fun text =>
      let name := trimStart text
      !(name.takeWhile isWord).isEmpty && (name.dropWhile isWord).all isBlank

/-- A parameter: its name with optional modifiers, a colon, and the name of its type, which is
the named part. Blanks are free between them. -/
def parameter : Pattern :=
  .reading "param" fun text =>
    let ofName c := isWord c || isBlank c
    match text.dropWhile ofName with
    | ':' :: rest =>
      let rest := trimStart rest
      let type := rest.takeWhile isWord
      if type.isEmpty || !namesParameter (text.takeWhile ofName) then none
      else some ([type], rest.dropWhile isWord)
    | _ => none

/-! ### Classes -/

/-- The path of a controller: its route under `/api`, with one slash between them and none at
the end. -/
def apiRoute (route : String) : String :=
  let route := trimBoth (· == '/') (trim route.toList)
  if route.isEmpty then "/api" else "/api/" ++ String.ofList route

/-- What a decorator makes of a class. -/
structure Marker where
  kind : Kind
  pattern : Pattern
  /-- The label of a class of this name. -/
  label : (className : String) → Capture → String

/-- The label of a controller shows the path of its route. -/
def controllerLabel (className : String) (capture : Capture) : String :=
  let route := (capture.groups.find? fun group => !group.isEmpty).getD ""
  className ++ "<br><small>" ++ apiRoute route ++ "</small>"

/-- The label of a service is its name. -/
def serviceLabel (className : String) (_ : Capture) : String :=
  className

/-- The label of a gateway says how it is reached. -/
def gatewayLabel (className : String) (_ : Capture) : String :=
  className ++ "<br><small>WebSocket</small>"

namespace Marker

/-- `@Controller` with a route. -/
def controller : Marker := ⟨.controller, controllerMark, controllerLabel⟩

/-- `@Injectable`. -/
def injectable : Marker := ⟨.service, injectableMark, serviceLabel⟩

/-- `@WebSocketGateway`. -/
def gateway : Marker := ⟨.gateway, gatewayMark, gatewayLabel⟩

/-- A marker that looks for a word, and adds `ending` to the name of the class. -/
def ofLiteral (kind : Kind) (name word ending : String) : Marker :=
  ⟨kind, .literal name word, fun className _ => className ++ ending⟩

end Marker

/-- The built-in markers; the first one that matches decides. -/
def markers : List Marker :=
  [.controller, .injectable, .gateway]

/-- The first of the markers that matches a text, with its match. -/
def classify (markers : List Marker) (text : String) : Option (Marker × Capture) :=
  markers.findSome? fun marker => (marker.pattern.find? text).map fun capture => (marker, capture)

/-- The type that a parameter declares. -/
def parameterType? (piece : List Char) : Option String :=
  let piece := trim piece
  if piece.isEmpty then none else (parameter.findFrom? 0 piece).map Capture.value

/-- The declared types of the parameters of the first constructor, in order. A parameter that
declares no type contributes nothing. -/
def constructorDependencies (text : String) : List String :=
  match constructorList.find? text with
  | none => []
  | some capture => (splitOn ',' capture.value.toList).filterMap parameterType?

end SystemSketch.Recognition
