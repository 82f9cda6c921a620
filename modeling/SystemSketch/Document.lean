import SystemSketch.Json.Basic

/-!
# Documents

A document is the value that a rule file or the body of a request holds. Its mappings may have
keys of any kind; entering a key that is already there keeps the place of the key and replaces
the value. Documents are only looked at, never computed with, so dates and times are held as
they are written.

## Main definitions

* `Document` — the values.
* `Document.ofJson` — the document of a JSON value.
* `Document.isFalsy` — the documents that stand for nothing.
* `Document.asTexts?`, `Document.asText?` — the values that rules may have.
-/

namespace SystemSketch

/-- The value of a rule file or of a request. -/
inductive Document where
  | null
  | bool (value : Bool)
  | int (value : Int)
  | decimal (value : Double)
  | text (value : String)
  | bytes (content : List UInt8)
  | date (written : String)
  /-- A date with a time of day, and whether it names a time zone. -/
  | timestamp (written : String) (zoned : Bool)
  | list (items : List Document)
  | tuple (items : List Document)
  | set (items : List Document)
  | mapping (entries : List (Document × Document))

namespace Document

/-- How messages name the kind of a document. -/
def kindName : Document → String
  | null => "NoneType"
  | bool _ => "bool"
  | int _ => "int"
  | decimal _ => "float"
  | text _ => "str"
  | bytes _ => "bytes"
  | date _ => "datetime.date"
  | timestamp .. => "datetime.datetime"
  | list _ => "list"
  | tuple _ => "tuple"
  | set _ => "set"
  | mapping _ => "dict"

/-- Whether a document stands for nothing: it is null, false, zero or empty. -/
def isFalsy : Document → Bool
  | null => true
  | bool value => !value
  | int value => value == 0
  | decimal value => value.isZero
  | text value => value.isEmpty
  | bytes content => content.isEmpty
  | date _ | timestamp .. => false
  | list items | tuple items | set items => items.isEmpty
  | mapping entries => entries.isEmpty

/-- The text that a document is. -/
def asText? : Document → Option String
  | text value => some value
  | _ => none

/-- The texts that a document lists. -/
def asTexts? : Document → Option (List String)
  | list items => items.mapM asText?
  | _ => none

/-- The number that a document is. Truth values count as 0 and 1. -/
def asNumber? : Document → Option Double
  | bool value => some (.ofInt (if value then 1 else 0))
  | int value => some (.ofInt value)
  | decimal value => some value
  | _ => none

/-- Whether two documents are the same key. Numbers of different kinds are the same key if they
are equal. -/
def sameKey (a b : Document) : Bool :=
  match a, b with
  | null, null => true
  | text x, text y | date x, date y => x == y
  | bytes x, bytes y => x == y
  | timestamp x p, timestamp y q => x == y && p == q
  | a, b =>
    match a.asNumber?, b.asNumber? with
    | some x, some y => x.same y
    | _, _ => false

/-- Enters a value under a key. -/
def enter (key value : Document) : List (Document × Document) → List (Document × Document)
  | [] => [(key, value)]
  | (k, v) :: entries =>
    if k.sameKey key then (k, value) :: entries else (k, v) :: enter key value entries

mutual

/-- The document of a JSON value. -/
def ofJson : Json → Document
  | .null => null
  | .bool value => bool value
  | .int value => int value
  | .real written => decimal (Json.realValue written)
  | .text value => text value
  | .list items => list (ofItems items)
  | .object members => mapping (ofMembers members [])

/-- The documents of JSON values. -/
def ofItems : List Json → List Document
  | [] => []
  | item :: items => ofJson item :: ofItems items

/-- The entries of a JSON object, after some that are already there. -/
def ofMembers : List (String × Json) → List (Document × Document) → List (Document × Document)
  | [], entries => entries
  | (name, value) :: members, entries =>
    ofMembers members (enter (text name) (ofJson value) entries)

end

end Document

end SystemSketch
