import SystemSketch.Proofs.Service.Sending

/-!
# Requests for a drawing

A request for a drawing comes to one of two ends, and the database has no say in which: an order is
fulfilled and its drawing handed out, or something is in the way and nothing but the reply comes of
the request. A drawing that cannot be noted is handed out all the same. One that cannot be encoded
is not handed out, and the service breaks down over it, whether the database or the reply comes to
it first.

## Main definitions

* `Request.asks` — whether a request asks for a route.
* `Request.made?` — the drawing that is made for a request.
* `Answered` — a request with its response.
* `answered` — the requests of a run with their responses.

## Main results

* `respond_generate_cases` — the two ends of a request for a drawing.
* `replies_to_drawings` — the replies of a run to such requests, without its database.
* `respond_generate_indep` — no history of the database shows in a reply to such a request.
-/

namespace SystemSketch.Service

/-- Whether a request asks for a route, by the method of the route. -/
def Request.asks (r : Request) (route : Route) : Bool :=
  Route.ofPath? r.path == some route && r.method == route.method

/-- The order in the body of a request, with the outcome of the analysis of its project. -/
def Request.made? (workingDirectory : Path.Directory) (r : Request) : Option (Order × Outcome) := do
  let order ← (Order.ofBody r.body).toOption
  let rules ← order.rules.toOption
  let outcome ← (analyze (order.project workingDirectory rules)).toOption
  return (order, outcome)

/-- A request with its response. -/
structure Answered where
  request : Request
  response : Response

/-- The request that is answered in an event. -/
def Answered.of? : Event × Option Response → Option Answered
  | (.request asked, some given) => some ⟨asked, given⟩
  | _ => none

/-- The requests of a run with their responses, in order. -/
def answered (workingDirectory : Path.Directory) (database : Database) (events : List Event) :
    List Answered :=
  (events.zip (run workingDirectory database events).1).filterMap Answered.of?

/-- The request of an event. -/
def Event.request? : Event → Option Request
  | .request asked => some asked
  | .dropTable => none

variable {workingDirectory : Path.Directory} {database : Database} {request : Request}

/-! ### Runs -/

/-- Nothing is answered before the first event. -/
@[simp] theorem answered_nil : answered workingDirectory database [] = [] := rfl

/-- The first event of a run, if it is a request. -/
@[simp] theorem answered_request (events : List Event) :
    answered workingDirectory database (.request request :: events) =
      ⟨request, (respond workingDirectory database request).1⟩ ::
        answered workingDirectory (respond workingDirectory database request).2 events := rfl

/-- The first event of a run, if it is no request. -/
@[simp] theorem answered_dropTable (events : List Event) :
    answered workingDirectory database (.dropTable :: events) =
      answered workingDirectory database.dropTable events := rfl

/-- The database after a run in two parts. -/
theorem run_append (workingDirectory : Path.Directory) (database : Database)
    (events more : List Event) :
    (run workingDirectory database (events ++ more)).2 =
      (run workingDirectory (run workingDirectory database events).2 more).2 := by
  induction events generalizing database with
  | nil => rfl
  | cons event events ih => exact ih _

/-! ### What comes of a request -/

/-- A request for a route is served. -/
theorem respond_of_asks {route : Route} (h : request.asks route = true)
    (workingDirectory : Path.Directory) (database : Database) :
    respond workingDirectory database request = serve workingDirectory database request route := by
  rw [Request.asks, Bool.and_eq_true, beq_iff_eq] at h
  rw [respond, h.1]
  exact if_pos h.2

/-- **A request that asks for no drawing** leaves the database as it is. -/
theorem database_respond_of_not_asks (h : request.asks .generate = false)
    (workingDirectory : Path.Directory) (database : Database) :
    (respond workingDirectory database request).2 = database := by
  rw [Request.asks] at h
  rw [respond]
  cases hroute : Route.ofPath? request.path with
  | none => rfl
  | some route =>
    rw [hroute] at h
    dsimp only
    split
    · next hmethod =>
      cases route with
      | health => rfl
      | generate => rw [hmethod] at h; exact absurd h (by decide)
      | generations =>
        rw [serve]
        split
        · rfl
        · rw [showLog]; split <;> rfl
    · rfl

/-- **The two ends of a request for a drawing**, whatever the state of the database: the drawing of
an order is made and handed out, or no drawing is made, the request is refused or fails, and the
database is not touched. -/
theorem respond_generate_cases (h : request.asks .generate = true)
    (workingDirectory : Path.Directory) :
    (∃ order rules outcome, Order.ofBody request.body = .ok order ∧ order.rules = .ok rules ∧
      analyze (order.project workingDirectory rules) = .ok outcome ∧
      ∀ database, respond workingDirectory database request =
        handOut database order (order.project workingDirectory rules) outcome) ∨
    (request.made? workingDirectory = none ∧ ∃ reply : Reply, reply.status ∈ [400, 422, 500] ∧
      ∀ database, respond workingDirectory database request = say database reply) := by
  simp only [respond_of_asks h, serve, Request.made?]
  cases hbody : Order.ofBody request.body with
  | error e =>
    refine Or.inr ⟨rfl, ?_⟩
    cases e with
    | unreadable => exact ⟨.unreadable, by decide, fun _ => rfl⟩
    | invalid standIns complaints =>
      exact ⟨.ofComplaints standIns complaints,
        List.mem_cons_of_mem _ (status_ofComplaints standIns complaints), fun _ => rfl⟩
  | ok order =>
    simp only [fulfil]
    cases hrules : order.rules with
    | error e =>
      have hstatus : ∀ status ∈ [400, 500], status ∈ [400, 422, 500] := by decide
      exact Or.inr ⟨by simp [hrules, Except.toOption],
        _, hstatus _ (status_handedOut order.standIns (.refused e)), fun _ => rfl⟩
    | ok rules =>
      cases hanalyze : analyze (order.project workingDirectory rules) with
      | error e =>
        exact Or.inr ⟨by simp [hrules, hanalyze, Except.toOption],
          .failure, by decide, fun _ => by simp only [hanalyze]⟩
      | ok outcome =>
        exact Or.inl
          ⟨order, rules, outcome, rfl, hrules, hanalyze, fun _ => by simp only [hanalyze]⟩

/-- The drawing that is made for a request. -/
theorem made?_eq_some_iff {order : Order} {outcome : Outcome} :
    request.made? workingDirectory = some (order, outcome) ↔
      Order.ofBody request.body = .ok order ∧ ∃ rules, order.rules = .ok rules ∧
        analyze (order.project workingDirectory rules) = .ok outcome := by
  simp only [Request.made?, Option.bind_eq_bind, Option.bind_eq_some_iff, toOption_eq_some_iff,
    Option.pure_def, Option.some.injEq, Prod.mk.injEq]
  constructor
  · rintro ⟨_, hbody, rules, hrules, _, hanalyze, rfl, rfl⟩
    exact ⟨hbody, rules, hrules, hanalyze⟩
  · rintro ⟨hbody, rules, hrules, hanalyze⟩
    exact ⟨order, hbody, rules, hrules, outcome, hanalyze, rfl, rfl⟩

/-- **What becomes of a drawing** that is made, whether it can be noted or not. -/
theorem reply_handOut (database : Database) (order : Order) (project : Project)
    (outcome : Outcome) :
    (handOut database order project outcome).1.reply =
      (Reply.drawing order.title? outcome).handedOut order.standIns := by
  rw [handOut]
  cases database.record (.of project outcome) with
  | none => rfl
  | some noted =>
    dsimp only
    split
    · rfl
    · next htorn => exact (if_neg fun hshown => htorn (isEncodable_of_isShowable hshown).1).symm

/-- The database after a drawing is made. -/
theorem database_handOut (database : Database) (order : Order) (project : Project)
    (outcome : Outcome) :
    (handOut database order project outcome).2 =
      if order.standIns.isEncodable outcome.diagram then
        (database.record (.of project outcome)).getD database
      else database := by
  rw [handOut]
  cases database.record (.of project outcome) with
  | none => exact (ite_self _).symm
  | some noted => exact apply_ite Prod.snd _ _ _

/-! ### The database does not show -/

/-- **The reply to a request for a drawing** is the same with every database. -/
theorem reply_respond_generate (h : request.asks .generate = true)
    (workingDirectory : Path.Directory) (database database' : Database) :
    (respond workingDirectory database request).1.reply =
      (respond workingDirectory database' request).1.reply := by
  rcases respond_generate_cases h workingDirectory with
    ⟨order, rules, outcome, -, -, -, hresponse⟩ | ⟨-, reply, -, hresponse⟩
  · rw [hresponse, hresponse, reply_handOut, reply_handOut]
  · rw [hresponse, hresponse]
    rfl

/-- **The replies of a run** to its requests for drawings are those of a service that cannot reach
its database. -/
theorem replies_to_drawings (workingDirectory : Path.Directory) (database : Database)
    (events : List Event) :
    ((answered workingDirectory database events).filter (·.request.asks .generate)).map
        (·.response.reply) =
      ((events.filterMap Event.request?).filter (·.asks .generate)).map fun request =>
        (respond workingDirectory .unreachable request).1.reply := by
  induction events generalizing database with
  | nil => rfl
  | cons event events ih =>
    cases event with
    | dropTable =>
      rw [answered_dropTable]
      exact ih database.dropTable
    | request request =>
      have hrequests : (Event.request request :: events).filterMap Event.request? =
          request :: events.filterMap Event.request? := rfl
      rw [answered_request, hrequests, List.filter_cons, List.filter_cons]
      by_cases hasks : request.asks .generate = true
      · rw [if_pos hasks, if_pos hasks, List.map_cons, List.map_cons, ih,
          reply_respond_generate hasks workingDirectory database .unreachable]
      · rw [if_neg hasks, if_neg hasks, ih]

/-- **No history of the database shows in a drawing.** A request for a drawing is answered with the
same status and the same content after any events with any database and after any other events with
any other one: whether there is a table, whatever its rows are, whether it was dropped or never
made, and whether the database can be reached. And two runs with the same requests for drawings,
whatever happens between them, give the same replies to them. -/
theorem respond_generate_indep (workingDirectory : Path.Directory) (database database' : Database)
    (events events' : List Event) :
    (∀ request : Request, request.asks .generate = true →
      let reply :=
        (respond workingDirectory (run workingDirectory database events).2 request).1.reply
      let reply' :=
        (respond workingDirectory (run workingDirectory database' events').2 request).1.reply
      reply.status = reply'.status ∧ reply.content = reply'.content) ∧
    ((events.filterMap Event.request?).filter (·.asks .generate) =
        (events'.filterMap Event.request?).filter (·.asks .generate) →
      ((answered workingDirectory database events).filter (·.request.asks .generate)).map
          (·.response.reply) =
        ((answered workingDirectory database' events').filter (·.request.asks .generate)).map
          (·.response.reply)) := by
  refine ⟨fun request hasks => ?_, fun hsame => ?_⟩
  · have hreply := reply_respond_generate hasks workingDirectory
      (run workingDirectory database events).2 (run workingDirectory database' events').2
    exact ⟨congrArg Reply.status hreply, congrArg Reply.content hreply⟩
  · rw [replies_to_drawings, replies_to_drawings, hsame]

/-- A request for a drawing of nothing but the actors. -/
def blankRequest : Request where
  method := "POST"
  path := "/generate"
  body := Text.Utf8.encode "\x7b\x7d".toList

/-- The blank request is noted by a service with a table; after its table is dropped the service
answers it as before, and so does one that cannot reach its database. -/
theorem respond_generate_indep_blank :
    let noted := run [] (.ready []) [.request blankRequest]
    let dropped := run [] (.ready []) [.request blankRequest, .dropTable]
    (blankRequest.asks .generate = true ∧ noted.2 ≠ dropped.2) ∧
      (respond [] noted.2 blankRequest).1.reply.status = 200 ∧
      (respond [] dropped.2 blankRequest).1.reply.status = 200 ∧
      (respond [] dropped.2 blankRequest).1.reply.content =
        (respond [] noted.2 blankRequest).1.reply.content ∧
      (answered [] .unreachable [.request blankRequest]).map (·.response.reply) =
        (answered [] (.ready []) [.dropTable, .request blankRequest]).map (·.response.reply) := by
  have hasks : blankRequest.asks .generate = true := by decide +kernel
  have hdiffer : (run [] (.ready []) [.request blankRequest]).2 ≠
      (run [] (.ready []) [.request blankRequest, .dropTable]).2 := by decide +kernel
  have hstatus : (respond [] (run [] (.ready []) [.request blankRequest]).2
      blankRequest).1.reply.status = 200 := by decide +kernel
  have hsingle := (respond_generate_indep [] (.ready []) (.ready [])
    [.request blankRequest, .dropTable] [.request blankRequest]).1 blankRequest hasks
  have hruns := (respond_generate_indep [] .unreachable (.ready []) [.request blankRequest]
    [.dropTable, .request blankRequest]).2 rfl
  refine ⟨⟨hasks, hdiffer⟩, hstatus, hsingle.1.trans hstatus, hsingle.2, ?_⟩
  rw [List.filter_eq_self.mpr, List.filter_eq_self.mpr] at hruns
  · exact hruns
  · simp [hasks]
  · simp [hasks]

end SystemSketch.Service
