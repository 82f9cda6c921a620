import SystemSketch.Double

/-!
# JSON values

The values that interfaces take and hand out. The members of an object keep their order. A
number with a fraction or an exponent is kept as it is written; three words are numbers as well.

## Main definitions

* `Json` — the values.
* `Json.member?` — a member of an object.
* `Json.realValue` — the number that stands behind what is written.
-/

namespace SystemSketch

/-- A JSON value. -/
inductive Json where
  | null
  | bool (value : Bool)
  | int (value : Int)
  /-- A number with a fraction or an exponent, as it is written. -/
  | real (written : String)
  | text (value : String)
  | list (items : List Json)
  | object (members : List (String × Json))

namespace Json

/-- The last member of an object that bears a name. -/
def member? (name : String) : Json → Option Json
  | object members => (members.reverse.find? (·.1 == name)).map (·.2)
  | _ => none

/-- The value of a number that is written with a fraction or an exponent, or in words. -/
def realValue (written : String) : Double :=
  if written == "NaN" then .undefined
  else if written == "Infinity" then .infinite false
  else if written == "-Infinity" then .infinite true
  else .ofWritten written.toList

/-- A list of texts. -/
def texts (values : List String) : Json :=
  list (values.map text)

/-- A text, or `null` for none. -/
def optional (value? : Option String) : Json :=
  (value?.map text).getD null

end Json

end SystemSketch
