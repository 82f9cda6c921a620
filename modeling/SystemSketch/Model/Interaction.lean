import SystemSketch.Model.Component

/-!
# Interactions and references

An interaction is an arrow between two identifiers, which need not belong to components. A
reference is the question that a page asks the model: which controller serves this route, or
which gateway is there? An answered reference becomes an interaction.
-/

namespace SystemSketch

/-- An arrow of the architecture. -/
structure Interaction where
  source : String
  target : String
  label : String
  /-- Whether the source does not wait for the target; such an arrow is dotted. -/
  isAsync : Bool := false
  deriving DecidableEq

/-- A question of a component about the model. A reference of kind `controller` asks for the
controller of a route, one of any other kind asks for the first gateway. -/
structure Reference where
  /-- The component that asks. -/
  source : String
  kind : Kind
  /-- The first segment of the endpoint, for a controller. -/
  route : Option String := none
  isAsync : Bool := false
  deriving DecidableEq

namespace Reference

/-- The question of `page` for the controller of `route`. -/
def toController (page route : String) : Reference :=
  { source := page, kind := .controller, route := some route }

/-- The question of `page` for the gateway. -/
def toGateway (page : String) : Reference :=
  { source := page, kind := .gateway, isAsync := true }

/-- The route that a controller is looked up by; a reference without one is looked up under
a name of its own. -/
def lookupRoute (r : Reference) : String :=
  r.route.getD "None"

end Reference

end SystemSketch
