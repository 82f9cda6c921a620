import SystemSketch.Text.Quoted

/-!
# Components

A component is one box of the architecture: a page of the client, a class of the server, or
one of the two actors that no file declares, the user and the database.

## Main definitions

* `Kind` — what a component is; `Kind.cluster` says in which group of the drawing it stands.
* `Cluster` — the groups of the drawing, in the order in which they are drawn.
* `Component` — an identifier with its kind, its label and the file that declares it.
-/

namespace SystemSketch

/-- What a component is. -/
inductive Kind where
  | clientPage
  | controller
  | service
  | gateway
  | database
  | user
  deriving DecidableEq

/-- The groups of the drawing. -/
inductive Cluster where
  | user
  | client
  | server
  | database
  deriving DecidableEq

/-- A name that no member of a closed family bears. -/
structure UnknownName where
  name : String
  family : String
  deriving DecidableEq

/-- The text of an unknown name. -/
def UnknownName.message (e : UnknownName) : String :=
  Text.quote e.name ++ " is not a valid " ++ e.family

namespace Kind

/-- Every kind. -/
def all : List Kind :=
  [.clientPage, .controller, .service, .gateway, .database, .user]

/-- The name of a kind. -/
def name : Kind → String
  | .clientPage => "ClientPage"
  | .controller => "Controller"
  | .service => "Service"
  | .gateway => "Gateway"
  | .database => "Database"
  | .user => "User"

/-- The kind that bears a name. -/
def ofName (name : String) : Except UnknownName Kind :=
  match all.find? (·.name == name) with
  | some kind => .ok kind
  | none => .error ⟨name, "ComponentKind"⟩

/-- The group in which components of a kind are drawn. -/
def cluster : Kind → Cluster
  | .clientPage => .client
  | .controller | .service | .gateway => .server
  | .database => .database
  | .user => .user

theorem mem_all (kind : Kind) : kind ∈ all := by
  cases kind <;> decide

theorem ofName_name (kind : Kind) : ofName kind.name = .ok kind := by
  cases kind <;> rfl

end Kind

namespace Cluster

/-- Every cluster, in drawing order. -/
def all : List Cluster :=
  [.user, .client, .server, .database]

/-- The name of a cluster. -/
def name : Cluster → String
  | .user => "User"
  | .client => "Client"
  | .server => "Server"
  | .database => "Database"

/-- The cluster that bears a name. -/
def ofName (name : String) : Except UnknownName Cluster :=
  match all.find? (·.name == name) with
  | some cluster => .ok cluster
  | none => .error ⟨name, "Cluster"⟩

theorem mem_all (cluster : Cluster) : cluster ∈ all := by
  cases cluster <;> decide

theorem ofName_name (cluster : Cluster) : ofName cluster.name = .ok cluster := by
  cases cluster <;> rfl

end Cluster

/-- One box of the architecture. -/
structure Component where
  /-- The identifier, unique among the components of a model. -/
  id : String
  kind : Kind
  /-- What the box shows. -/
  label : String
  /-- The file that declares the component; empty for an actor that no file declares. -/
  filePath : String := ""
  deriving DecidableEq

namespace Component

/-- The group in which a component is drawn. -/
def cluster (c : Component) : Cluster :=
  c.kind.cluster

/-- Where a component comes from, as messages say it. -/
def origin (c : Component) : String :=
  if c.filePath.isEmpty then "synthesized" else c.filePath

end Component

end SystemSketch
