import SystemSketch.Json.Basic
import SystemSketch.Json.Surrogate
import SystemSketch.Text.Search

/-!
# Complaints about requests

A request is checked as a whole. Every value that does not fit gives a complaint, which says
where the value stands and what is wrong with it; the complaints come in the order in which the
values are read.

## Main definitions

* `Complaint` — what is wrong with a value, and where the value stands.
* `isShowable` — whether a value can be handed out.
* `Checked` — a value that is read from a request, or the complaints about it.
* `Checked.andAlso` — puts a value together from parts; the complaints about all parts are kept.
-/

namespace SystemSketch.Service

/-- What can be wrong with a value. -/
inductive Fault where
  | missing
  | notList
  | notDict
  | notText
  | notBool
  | unreadableBool
  | notRecord
  | unreadableInt
  | endlessInt
  | tooSmall
  | tooLarge
  | notJson
  deriving DecidableEq

/-- How interfaces call a fault. -/
def Fault.name : Fault → String
  | .missing => "missing"
  | .notList => "list_type"
  | .notDict => "dict_type"
  | .notText => "string_type"
  | .notBool => "bool_type"
  | .unreadableBool => "bool_parsing"
  | .notRecord => "model_attributes_type"
  | .unreadableInt => "int_parsing"
  | .endlessInt => "int_parsing_size"
  | .tooSmall => "greater_than_equal"
  | .tooLarge => "less_than_equal"
  | .notJson => "json_invalid"

/-- One step towards a value. -/
inductive Step where
  | member (name : String)
  | item (index : Nat)
  deriving DecidableEq

/-- What is wrong with a value, and where the value stands. -/
structure Complaint where
  fault : Fault
  place : List Step
  /-- The value that does not fit, or the object that lacks one. -/
  value : Json

/-- A step as it is handed out. -/
def Step.toJson : Step → Json
  | .member name => .text name
  | .item index => .int index

section

variable (standIns : Json.StandIns)

mutual

/-- Whether a value can be handed out: it holds no number that is infinite or none at all, and no
text that cannot be encoded. -/
def isShowable : Json → Bool
  | .real written => (Json.realValue written).isFinite
  | .text value => standIns.isEncodable value
  | .list items => areItemsShowable items
  | .object members => areMembersShowable members
  | _ => true

/-- Whether the items of a list can be handed out. -/
def areItemsShowable : List Json → Bool
  | [] => true
  | item :: items => isShowable item && areItemsShowable items

/-- Whether the members of an object can be handed out. Of several members of one name only the
last one counts, and members whose names begin with `_sa` are never handed out. -/
def areMembersShowable : List (String × Json) → Bool
  | [] => true
  | (name, value) :: members =>
    (members.any (·.1 == name) || (Text.after? "_sa".toList name.toList).isSome ||
      standIns.isEncodable name && isShowable value) && areMembersShowable members

end

/-- Whether a complaint can be handed out, together with the value that it is about. -/
def Complaint.isShowable (c : Complaint) : Bool :=
  Service.isShowable standIns c.value

end

/-- A complaint as it is handed out. -/
def Complaint.toJson (c : Complaint) : Json :=
  .object [("type", .text c.fault.name), ("loc", .list (c.place.map Step.toJson))]

/-- A value that is read from a request, or the complaints about it. -/
abbrev Checked (α : Type) : Type :=
  Except (List Complaint) α

namespace Checked

variable {α β : Type}

/-- A single complaint about a value. -/
def complain (fault : Fault) (place : List Step) (value : Json) : Checked α :=
  .error [⟨fault, place, value⟩]

/-- A value put together from two parts, or the complaints about both of them. -/
def andAlso (make : Checked (α → β)) (part : Checked α) : Checked β :=
  match make, part with
  | .ok make, .ok part => .ok (make part)
  | .ok _, .error complaints | .error complaints, .ok _ => .error complaints
  | .error earlier, .error later => .error (earlier ++ later)

/-- The values of items that stand one after the other from a position on, or the complaints
about all of them. -/
def items (read : List Step → Json → Checked α) (place : List Step) :
    Nat → List Json → Checked (List α)
  | _, [] => .ok []
  | index, json :: rest =>
    andAlso ((read (place ++ [.item index]) json).map List.cons) (items read place (index + 1) rest)

end Checked

end SystemSketch.Service
