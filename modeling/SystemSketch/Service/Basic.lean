import SystemSketch.Service.Order
import SystemSketch.Service.Reply

/-!
# The service

The service draws projects on request and keeps a log of what it drew. A database that cannot be
used never stands in the way of a drawing: that there is no entry is only written to the output. An
entry is made before the reply is written, and stays if there is no way to write it.

## Main definitions

* `Request` — a request.
* `Route` — the places of the service.
* `respond` — the response to a request, and the database after it.
* `start` — the start of the service.
-/

namespace SystemSketch.Service

/-- A request to the service. -/
structure Request where
  method : String
  path : String
  query : List (String × String) := []
  /-- The body, as it is sent. -/
  body : List UInt8 := []

/-- The places of the service. -/
inductive Route where
  | health
  | generate
  | generations
  deriving DecidableEq

namespace Route

/-- Every route. -/
def all : List Route := [health, generate, generations]

/-- The path of a route. -/
def path : Route → String
  | health => "/health"
  | generate => "/generate"
  | generations => "/generations"

/-- The method of a route. -/
def method : Route → String
  | health | generations => "GET"
  | generate => "POST"

/-- The route of a path. Slashes at its end do not matter, nor does a line feed before them. -/
def ofPath? (path : String) : Option Route :=
  let trimmed := Text.dropEndWhile (· == '/') path.toList
  all.find? fun route => trimmed == route.path.toList || trimmed == route.path.toList ++ ['\n']

end Route

/-- What comes of a request besides the change of the database. -/
structure Response where
  reply : Reply
  /-- The lines that the service writes about its database. -/
  log : List String := []

/-- A response without a change. -/
def say (database : Database) (reply : Reply) (log : List String := []) : Response × Database :=
  (⟨reply, log⟩, database)

/-- Notes a drawing, if that is possible, and hands it out. The diagram is a part of what a table
takes, and the service breaks down over one that cannot be encoded. -/
def handOut (database : Database) (order : Order) (project : Project) (outcome : Outcome) :
    Response × Database :=
  let reply := (Reply.drawing order.title? outcome).handedOut order.standIns
  match database.record (.of project outcome) with
  | some noted =>
    if order.standIns.isEncodable outcome.diagram then say noted reply else say database .failure
  | none => say database reply ["[DB] ⚠️ Could not record generation"]

/-- The response to an order. -/
def fulfil (workingDirectory : Path.Directory) (database : Database) (order : Order) :
    Response × Database :=
  match order.rules with
  | .error e => say database ((Reply.refused e).handedOut order.standIns)
  | .ok rules =>
    let project := order.project workingDirectory rules
    match analyze project with
    | .error _ => say database .failure
    | .ok outcome => handOut database order project outcome

/-- The response to a request for the last entries of the log. -/
def showLog (database : Database) (limit : Nat) : Response × Database :=
  match database.recent limit with
  | some entries => say database (.entries entries)
  | none => say database .logUnavailable ["[DB] ⚠️ Could not read generation log"]

/-- The value of a query; the last one of a name counts. -/
def Request.queryValue? (r : Request) (name : String) : Option String :=
  (r.query.reverse.find? (·.1 == name)).map (·.2)

/-- The response to a request for a route, and the database after it. -/
def serve (workingDirectory : Path.Directory) (database : Database) (request : Request) :
    Route → Response × Database
  | .health => say database .health
  | .generate =>
    match Order.ofBody request.body with
    | .error .unreadable => say database .unreadable
    | .error (.invalid standIns complaints) => say database (.ofComplaints standIns complaints)
    | .ok order => fulfil workingDirectory database order
  | .generations =>
    match readLimit (request.queryValue? "limit") with
    | .error complaints => say database (.ofComplaints {} complaints)
    | .ok limit => showLog database limit

/-- The response to a request, and the database after it. -/
def respond (workingDirectory : Path.Directory) (database : Database) (request : Request) :
    Response × Database :=
  match Route.ofPath? request.path with
  | none => say database .notFound
  | some route =>
    if request.method == route.method then serve workingDirectory database request route
    else say database .methodNotAllowed

/-- The start of the service: the table is made, and the lines say what came of it. -/
def start (database : Database) : Database × List String :=
  match database.createTable with
  | .unreachable =>
    (.unreachable, ["[DB] ⚠️ Database not ready, running without persistence"])
  | database => (database, ["[DB] ✅ Database ready"])

/-- What may happen to a running service. -/
inductive Event where
  | request (request : Request)
  | dropTable

/-- The database after an event, and the response if it is a request. -/
def step (workingDirectory : Path.Directory) (database : Database) :
    Event → Option Response × Database
  | .request request =>
    let (response, database) := respond workingDirectory database request
    (some response, database)
  | .dropTable => (none, database.dropTable)

/-- The responses to events that happen one after the other, and the database in the end. -/
def run (workingDirectory : Path.Directory) (database : Database) :
    List Event → List (Option Response) × Database
  | [] => ([], database)
  | event :: events =>
    let (response?, database) := step workingDirectory database event
    let (responses, database) := run workingDirectory database events
    (response? :: responses, database)

end SystemSketch.Service
