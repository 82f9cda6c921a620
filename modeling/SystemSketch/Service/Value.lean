import SystemSketch.Document
import SystemSketch.Service.Complaint
import SystemSketch.Text.Blank
import SystemSketch.Text.Digits

/-!
# Reading the values of requests

Texts are taken from texts alone. Truth values are also taken from the numbers 0 and 1 and from
a few words. A number in a query may have blanks around it, a sign, zeros in front, single
underscores between its digits, and a fraction of zeros.

## Main definitions

* `readText`, `readOptionalText`, `readBool`, `readList`, `readDict` — the values of a body.
* `required`, `withDefault` — the members of an object.
* `readLimit` — a number of a query.
-/

namespace SystemSketch.Service

/-- A text. -/
def readText (place : List Step) : Json → Checked String
  | .text value => .ok value
  | json => .complain .notText place json

/-- A text, or nothing. -/
def readOptionalText (place : List Step) : Json → Checked (Option String)
  | .null => .ok none
  | json => (readText place json).map some

/-- The words that stand for a truth value, in any case. -/
def boolOfWord? (word : String) : Option Bool :=
  let small := String.ofList (word.toList.map Char.toLower)
  if ["1", "t", "y", "on", "yes", "true"].contains small then some true
  else if ["0", "f", "n", "off", "no", "false"].contains small then some false
  else none

/-- The numbers that stand for a truth value. -/
def boolOfInt? (value : Int) : Option Bool :=
  if value = 0 then some false else if value = 1 then some true else none

/-- How large a number is that no integer of 64 bits reaches. -/
def intBound : Int := 0x8000000000000000

/-- The integer of 64 bits that a value is. An integer that is written with a fraction or an
exponent may not be the least one. -/
def boundedInt? : Json → Option Int
  | .int value => if -intBound ≤ value ∧ value < intBound then some value else none
  | .real written =>
    (Json.realValue written).integer?.filter fun value => -intBound < value ∧ value < intBound
  | _ => none

/-- A truth value. A word or an integer that stands for none is told apart from a value that
cannot stand for one. -/
def readBool (place : List Step) (json : Json) : Checked Bool :=
  let check (value? : Option Bool) : Checked Bool :=
    match value? with
    | some value => .ok value
    | none => .complain .unreadableBool place json
  match json with
  | .bool value => .ok value
  | .text word => check (boolOfWord? word)
  | json =>
    match boundedInt? json with
    | some value => check (boolOfInt? value)
    | none => .complain .notBool place json

/-- A list. -/
def readList {α : Type} (read : List Step → Json → Checked α) (place : List Step) :
    Json → Checked (List α)
  | .list items => Checked.items read place 0 items
  | json => .complain .notList place json

/-- An object of any members, or nothing. -/
def readDict (place : List Step) : Json → Checked (Option Json)
  | .null => .ok none
  | .object members => .ok (some (.object members))
  | json => .complain .notDict place json

/-- A member that must be there. -/
def required {α : Type} (read : List Step → Json → Checked α) (place : List Step) (o : Json)
    (name : String) : Checked α :=
  match o.member? name with
  | some json => read (place ++ [.member name]) json
  | none => .complain .missing (place ++ [.member name]) o

/-- A member that has a default. -/
def withDefault {α : Type} (default : α) (read : List Step → Json → Checked α)
    (place : List Step) (o : Json) (name : String) : Checked α :=
  match o.member? name with
  | some json => read (place ++ [.member name]) json
  | none => .ok default

/-! ### Numbers of a query -/

/-- A digit that is no zero. -/
def isLeadingDigit (c : Char) : Bool :=
  '1' ≤ c && c ≤ '9'

/-- How many characters an integer may have. -/
def integerLimit : Nat := 4300

/-- The integer of digits without a zero in front. A minus may stand before them. -/
def plainInteger (text : List Char) : Except Fault Int :=
  let (negative, digits) := match text with
    | '-' :: digits => (true, digits)
    | digits => (false, digits)
  let taken := digits.takeWhile Char.isDigit
  if digits == ['0'] then .ok 0
  else if !digits.head?.any isLeadingDigit then .error .unreadableInt
  else if integerLimit < text.length - digits.length + taken.length then .error .endlessInt
  else if taken.length < digits.length then .error .unreadableInt
  else .ok (if negative then -(Text.decimalValue digits : Int) else Text.decimalValue digits)

/-- The blanks around a number, which the information separators are not. -/
def isMargin (c : Char) : Bool :=
  Text.isBlank c && !(0x1C ≤ c.toNat && c.toNat ≤ 0x1F)

/-- A text without a plus in front. No minus may follow it. -/
def withoutPlus? : List Char → Option (List Char)
  | '+' :: '-' :: _ => none
  | '+' :: rest => some rest
  | text => some text

/-- A text after zeros and underscores, of which `last` is the last one. A zero is left if nothing
or a point follows. -/
def afterZeros? (last : Char) : List Char → Option (List Char)
  | [] => some [last]
  | c :: rest =>
    if c == '0' || c == '_' then afterZeros? c rest
    else if isLeadingDigit c then some (c :: rest)
    else if c == '.' then some (last :: c :: rest)
    else none

/-- A text without the zeros in front. Nothing but a digit or a minus may be there. -/
def withoutZeros? : List Char → Option (List Char)
  | [] => none
  | c :: rest =>
    if c == '0' then afterZeros? c rest
    else if c == '-' || isLeadingDigit c then some (c :: rest)
    else none

/-- A text without the point and the zeros at its end. -/
def withoutFraction (text : List Char) : List Char :=
  let whole := text.takeWhile (· != '.')
  let fraction := (text.drop whole.length).drop 1
  if !fraction.isEmpty && fraction.all (· == '0') then whole else text

/-- A text without the underscores in it, if each stands between other characters. -/
def withoutUnderscores (text : List Char) : List Char :=
  if (Text.splitOn '_' text).any List.isEmpty then text else text.filter (· != '_')

/-- The digits of a number that is written with more than these. -/
def cleaned? (text : List Char) : Option (List Char) := do
  let text ← withoutPlus? (Text.trimBoth isMargin text)
  let text ← withoutZeros? text
  return withoutUnderscores (withoutFraction text)

/-- The integer that a text stands for. -/
def readInteger (text : List Char) : Except Fault Int :=
  match plainInteger text, cleaned? text with
  | .error .unreadableInt, some digits => plainInteger digits
  | result, _ => result

/-- How many entries are shown if nothing else is asked for. -/
def defaultLimit : Nat := 20

/-- How many entries can be asked for. -/
def greatestLimit : Nat := 200

/-- The number of entries that a query asks for: at least one, and at most `greatestLimit`. -/
def readLimit (value? : Option String) : Checked Nat :=
  match value? with
  | none => .ok defaultLimit
  | some text =>
    let refuse (fault : Fault) : Checked Nat :=
      .complain fault [.member "query", .member "limit"] (.text text)
    match readInteger text.toList with
    | .error fault => refuse fault
    | .ok n =>
      if (greatestLimit : Int) < n then refuse .tooLarge
      else if n < 1 then refuse .tooSmall
      else .ok n.toNat

end SystemSketch.Service
