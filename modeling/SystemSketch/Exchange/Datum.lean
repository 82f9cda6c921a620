import SystemSketch.Json.Basic
import SystemSketch.Model.Component
import SystemSketch.Text.Quoted
import SystemSketch.Validation.Issue

/-!
# Data for exchange

Interfaces hand out data as JSON. A datum may also be a member of a closed family, a sequence of
bytes, a tuple or an object with attributes: a member is handed out by its name, bytes as their
quoted form, a tuple as a list, and an object by those of its attributes that are meant for
others. The names of the other ones begin with an underscore.

## Main definitions

* `Datum` — the data.
* `Datum.toJson` — a datum as it is handed out.
* `Datum.ofJson` — a JSON value as a datum.
-/

namespace SystemSketch

/-- What an interface may be asked to hand out. -/
inductive Datum where
  | null
  | bool (value : Bool)
  | int (value : Int)
  /-- A number with a fraction or an exponent, as it is written. -/
  | real (written : String)
  | text (value : String)
  | kind (value : Kind)
  | cluster (value : Cluster)
  | severity (value : Validation.Severity)
  | bytes (values : List UInt8)
  | list (items : List Datum)
  | tuple (items : List Datum)
  | dict (entries : List (String × Datum))
  | object (attributes : List (String × Datum))

namespace Datum

/-- A list of texts. -/
def texts (values : List String) : Datum :=
  list (values.map text)

/-- A text, or `null` for none. -/
def optional (value? : Option String) : Datum :=
  (value?.map text).getD null

/-- Whether an attribute is kept to its object: its name begins with an underscore. -/
def isInner (name : String) : Bool :=
  name.toList.head? == some '_'

mutual

/-- A datum as it is handed out. -/
def toJson : Datum → Json
  | null => .null
  | bool value => .bool value
  | int value => .int value
  | real written => .real written
  | text value => .text value
  | kind value => .text value.name
  | cluster value => .text value.name
  | severity value => .text value.name
  | bytes values => .text (Text.quoteBytes values)
  | list items | tuple items => .list (itemsToJson items)
  | dict entries => .object (entriesToJson entries)
  | object attributes => .object (attributesToJson attributes)

/-- Data in order, as they are handed out. -/
def itemsToJson : List Datum → List Json
  | [] => []
  | item :: items => toJson item :: itemsToJson items

/-- The entries of a dictionary as they are handed out, all of them. -/
def entriesToJson : List (String × Datum) → List (String × Json)
  | [] => []
  | (name, value) :: entries => (name, toJson value) :: entriesToJson entries

/-- The attributes of an object as they are handed out, without the inner ones. -/
def attributesToJson : List (String × Datum) → List (String × Json)
  | [] => []
  | (name, value) :: attributes =>
    if isInner name then attributesToJson attributes
    else (name, toJson value) :: attributesToJson attributes

end

mutual

/-- A JSON value as a datum. -/
def ofJson : Json → Datum
  | .null => null
  | .bool value => bool value
  | .int value => int value
  | .real written => real written
  | .text value => text value
  | .list items => list (ofJsonItems items)
  | .object members => dict (ofJsonMembers members)

/-- JSON values as data, in order. -/
def ofJsonItems : List Json → List Datum
  | [] => []
  | item :: items => ofJson item :: ofJsonItems items

/-- The members of a JSON object as entries, in order. -/
def ofJsonMembers : List (String × Json) → List (String × Datum)
  | [] => []
  | (name, value) :: members => (name, ofJson value) :: ofJsonMembers members

end

end Datum

end SystemSketch
