import SystemSketch.Yaml.Moment

/-!
# Tags

A tag says which kind of value a node has. A scalar without a tag that is written plainly is a
truth value, a number, nothing, a date or a time, if it has the form of one, and a text
otherwise. Integers may be binary, octal, hexadecimal or sexagesimal, and underscores may stand
between digits.

## Main definitions

* `Tag` — the kinds of value that a node can have.
* `Tag.ofName` — the kind that a full name stands for.
* `Tag.ofForm` — the kind that a scalar has by its form.
-/

namespace SystemSketch.Yaml

/-- The kinds of value. -/
inductive Tag where
  | null
  | bool
  | int
  | decimal
  | binary
  | timestamp
  | text
  | sequence
  | orderedMap
  | pairs
  | set
  | mapping
  /-- The key under which a mapping takes the entries of others. -/
  | merge
  /-- The key under which a mapping has a value of its own. -/
  | value
  /-- A kind that documents do not have. -/
  | other
  deriving DecidableEq

namespace Tag

/-- What the names of all known tags begin with. -/
def domain : String := "tag:yaml.org,2002:"

/-- The tag of a full name. -/
def ofName (name : String) : Tag :=
  match (Text.after? domain.toList name.toList).map String.ofList with
  | some "null" => null
  | some "bool" => bool
  | some "int" => int
  | some "float" => decimal
  | some "binary" => binary
  | some "timestamp" => timestamp
  | some "str" => text
  | some "seq" => sequence
  | some "omap" => orderedMap
  | some "pairs" => pairs
  | some "set" => set
  | some "map" => mapping
  | some "merge" => merge
  | some "value" => value
  | _ => other

end Tag

/-! ### Forms -/

/-- A digit or an underscore. -/
def isSpacedDigit (c : Char) : Bool :=
  c.isDigit || c == '_'

/-- A text without the sign in front of it. -/
def unsigned : List Char → List Char
  | [] => []
  | c :: cs => if c == '+' || c == '-' then cs else c :: cs

/-- Whether a text is one or more characters of a class. -/
def isRun (p : Char → Bool) (cs : List Char) : Bool :=
  !cs.isEmpty && cs.all p

/-- Whether a text is a part of a sexagesimal number: one digit, or two of which the first is
less than 6. -/
def isSixty : List Char → Bool
  | [d] => d.isDigit
  | [d, e] => '0' ≤ d && d ≤ '5' && e.isDigit
  | _ => false

/-- Whether a text without sign is an integer. -/
def isInt (cs : List Char) : Bool :=
  match cs with
  | [] => false
  | '0' :: 'b' :: ds => isRun (fun c => c == '0' || c == '1' || c == '_') ds
  | '0' :: 'x' :: ds => isRun (fun c => (Text.hexValue? c).isSome || c == '_') ds
  | ['0'] => true
  | '0' :: ds => isRun (fun c => ('0' ≤ c && c ≤ '7') || c == '_') ds
  | d :: ds =>
    d.isDigit &&
      match Text.splitOn ':' ds with
      | [] => false
      | first :: parts => first.all isSpacedDigit && parts.all isSixty

/-- Whether a text is empty or an exponent with its sign. -/
def isExponent : List Char → Bool
  | [] => true
  | c :: cs =>
    (c == 'e' || c == 'E') && (cs.head? == some '+' || cs.head? == some '-') &&
      isRun Char.isDigit (cs.drop 1)

/-- Whether a text is a point, digits, and an exponent or none. -/
def isFraction : List Char → Bool
  | '.' :: cs => isExponent (cs.dropWhile isSpacedDigit)
  | _ => false

/-- Whether a text is one of the words for infinity. -/
def isInfinity (cs : List Char) : Bool :=
  [".inf", ".Inf", ".INF"].any fun word => word.toList == cs

/-- Whether a text is one of the words for what is no number. -/
def isUndefined (cs : List Char) : Bool :=
  [".nan", ".NaN", ".NAN"].any fun word => word.toList == cs

/-- Whether a text is digits, colons and a fraction in sexagesimal form. -/
def isSexagesimalFraction (cs : List Char) : Bool :=
  match Text.splitOn '.' cs with
  | [whole, fraction] =>
    fraction.all isSpacedDigit &&
      match Text.splitOn ':' whole with
      | first :: part :: parts =>
        (first.head?.any Char.isDigit) && first.all isSpacedDigit && (part :: parts).all isSixty
      | _ => false
  | _ => false

/-- Whether a text is a number with a point. -/
def isDecimal (cs : List Char) : Bool :=
  let ds := unsigned cs
  isUndefined cs || isInfinity ds || isSexagesimalFraction ds ||
    (ds.head?.any Char.isDigit && isFraction (ds.dropWhile isSpacedDigit)) ||
    (cs.head? == some '.' && (cs.drop 1).head?.any Char.isDigit && isFraction cs)

/-! ### Words -/

/-- The words for truth values. -/
def boolWords : List (String × Bool) :=
  [("yes", true), ("no", false), ("true", true), ("false", false), ("on", true), ("off", false)]

/-- The ways in which a word may be written: small, with a capital, or all in capitals. -/
def spellings (word : String) : List (List Char) :=
  let cs := word.toList
  [cs, cs.head?.toList.map Char.toUpper ++ cs.drop 1, cs.map Char.toUpper]

/-- Whether a text is a word for a truth value. -/
def isBool (cs : List Char) : Bool :=
  boolWords.any fun (word, _) => (spellings word).contains cs

/-- Whether a text stands for nothing. -/
def isNull (cs : List Char) : Bool :=
  cs.isEmpty || cs == ['~'] || (spellings "null").contains cs

/-- Whether a text has the form of a date or a time. A date alone has two digits for the month
and the day. -/
def isTime (cs : List Char) : Bool :=
  match Moment.read? cs with
  | none => false
  | some moment => moment.time?.isSome || cs.length == 10

/-- A text without a line feed at its end, before which a form may end as well. -/
def withoutLastBreak (cs : List Char) : List Char :=
  if cs.getLast? == some '\n' then cs.dropLast else cs

/-- The kind that a scalar has by its form. A mark that begins no plain scalar gives a scalar a
kind that documents do not have. -/
def Tag.ofForm (text : String) : Tag :=
  let cs := withoutLastBreak text.toList
  if cs.isEmpty && !text.isEmpty then .text
  else if isBool cs then .bool
  else if isDecimal cs then .decimal
  else if isInt (unsigned cs) then .int
  else if cs == ['<', '<'] then .merge
  else if isNull cs then .null
  else if isTime cs then .timestamp
  else if cs == ['='] then .value
  else if cs == ['!'] || cs == ['&'] || cs == ['*'] then .other
  else .text

end SystemSketch.Yaml
