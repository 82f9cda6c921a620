import Mathlib.Data.List.Forall2
import SystemSketch.Proofs.Analysis.Facts
import SystemSketch.Proofs.Service.Drawing

/-!
# The log of a run

A service that starts with an empty table notes every drawing that it makes and can encode, in
order, and nothing else. What a row says can be read off the order in the body of the request and
off the content of the response. A row is noted before the drawing is handed out. So there is one
for each drawing that is handed out, and also for each that then turns out to hold a surrogate in a
text other than the diagram: such a request is answered with a failure, and its row stays. Whoever
asks for the last rows gets them, the newest first, as long as there is a table.

## Main definitions

* `Answered.isDrawn` — whether a drawing was asked for and handed out.
* `Request.isLost` — whether a drawing is asked for that can be noted but not handed out.
* `Answered.isNoted` — whether a drawing was handed out or lost.
* `Answered.Notes` — what a row says of an answered request.

## Main results

* `isNoted_eq` — which drawings that are made are noted.
* `respond_ready_cases` — one request adds the row of its drawing, or nothing.
* `run_ready` — a run adds the rows of its drawings.
* `recent_ready` — the last rows, by their numbers.
* `run_of_isLost` — a drawing that is lost leaves its row.
* `run_log` — all of this for a service that has just been started, and what is left of it after
  the table is dropped.
-/

namespace SystemSketch.Service

variable {workingDirectory : Path.Directory} {request : Request} {order : Order}
  {outcome : Outcome} {response : Response}

/-! ### What is noted -/

/-- Whether a drawing was asked for and handed out. -/
def Answered.isDrawn (a : Answered) : Bool :=
  a.request.asks .generate && a.response.reply.status == 200

/-- Whether a drawing is asked for that can be noted but not be handed out: its diagram can be
encoded, and another text of it cannot. -/
def Request.isLost (workingDirectory : Path.Directory) (r : Request) : Bool :=
  r.asks .generate && (r.made? workingDirectory).any fun (order, outcome) =>
    order.standIns.isEncodable outcome.diagram &&
      !(Reply.drawing order.title? outcome).isShowable order.standIns

/-- Whether a drawing was handed out, or was lost on the way. -/
def Answered.isNoted (workingDirectory : Path.Directory) (a : Answered) : Bool :=
  a.isDrawn || a.request.isLost workingDirectory

/-- What a row says of an answered request: how many files the order in its body has, and the counts
and the validity of the drawing that is made for it, which are those in the content of the response
if the drawing is handed out. -/
structure Answered.Notes (workingDirectory : Path.Directory) (a : Answered) (g : Generation) :
    Prop where
  made : ∃ order outcome, a.request.made? workingDirectory = some (order, outcome) ∧
    g.serverFiles = order.serverFiles.length ∧ g.clientFiles = order.clientFiles.length ∧
    g.components = outcome.report.stats.components ∧
    g.interactions = outcome.report.stats.interactions ∧
    g.validMermaid = Diagram.isValid outcome.diagram
  content : a.response.reply.status = 200 → ∃ json stats mermaid,
    a.response.reply.content = .json json ∧
    json.member? "stats" = some stats ∧
    stats.member? "components" = some (.int g.components) ∧
    stats.member? "interactions" = some (.int g.interactions) ∧
    json.member? "mermaid" = some (.text mermaid) ∧ g.validMermaid = Diagram.isValid mermaid

/-- The statistics of a drawing, as they are handed out. -/
theorem member?_drawingJson_stats (title? : Option String) (outcome : Outcome) :
    (Reply.drawingJson title? outcome).member? "stats" = some outcome.report.stats.toJson := rfl

/-- The text of a drawing, as it is handed out. -/
theorem member?_drawingJson_mermaid (title? : Option String) (outcome : Outcome) :
    (Reply.drawingJson title? outcome).member? "mermaid" = some (.text outcome.diagram) := rfl

/-- The counts of a row, as they are handed out. -/
theorem member?_toJson_stats (stats : Validation.Stats) :
    stats.toJson.member? "components" = some (.int stats.components) ∧
      stats.toJson.member? "interactions" = some (.int stats.interactions) := ⟨rfl, rfl⟩

/-- **What is noted about an analysis** is what the drawing that is handed out shows. -/
theorem notes_of_drawing {rules : Rules} (hbody : Order.ofBody request.body = .ok order)
    (hrules : order.rules = .ok rules)
    (hanalyze : analyze (order.project workingDirectory rules) = .ok outcome)
    (hreply : response.reply = (Reply.drawing order.title? outcome).handedOut order.standIns) :
    Answered.Notes workingDirectory ⟨request, response⟩
      (.of (order.project workingDirectory rules) outcome) where
  made := by
    refine ⟨order, outcome, made?_eq_some_iff.mpr ⟨hbody, rules, hrules, hanalyze⟩,
      rfl, rfl, ?_, ?_, rfl⟩
    · rw [Project.report_eq hanalyze]
      rfl
    · rw [Project.report_eq hanalyze]
      rfl
  content hstatus := by
    rw [hreply] at hstatus
    have hshown : response.reply = .drawing order.title? outcome :=
      hreply.trans (if_pos (isShowable_of_status hstatus))
    obtain ⟨hcomponents, hinteractions⟩ := member?_toJson_stats outcome.report.stats
    rw [Project.report_eq hanalyze] at hcomponents hinteractions
    refine ⟨_, _, _, congrArg Reply.content hshown, member?_drawingJson_stats _ _, ?_, ?_,
      member?_drawingJson_mermaid _ _, rfl⟩
    · rw [Project.report_eq hanalyze]
      exact hcomponents
    · rw [Project.report_eq hanalyze]
      exact hinteractions

/-- **Which drawings are noted**, of those that are made: the ones with a diagram that can be
encoded. -/
theorem isNoted_eq (hasks : request.asks .generate = true)
    (hmade : request.made? workingDirectory = some (order, outcome))
    (hreply : response.reply = (Reply.drawing order.title? outcome).handedOut order.standIns) :
    Answered.isNoted workingDirectory ⟨request, response⟩ =
      order.standIns.isEncodable outcome.diagram := by
  have hlost : request.isLost workingDirectory = (order.standIns.isEncodable outcome.diagram &&
      !(Reply.drawing order.title? outcome).isShowable order.standIns) := by
    rw [Request.isLost, hasks, hmade]
    rfl
  rw [Answered.isNoted, Answered.isDrawn, hlost, hasks, hreply, Reply.handedOut]
  by_cases hshown : (Reply.drawing order.title? outcome).isShowable order.standIns = true
  · rw [if_pos hshown, (isEncodable_of_isShowable hshown).1]
    rfl
  · rw [if_neg hshown, Bool.eq_false_iff.mpr hshown, Bool.not_false, Bool.and_true]
    rfl

/-- What is not made is not noted. -/
theorem isNoted_eq_false (hmade : request.made? workingDirectory = none)
    (hstatus : response.reply.status ≠ 200) :
    Answered.isNoted workingDirectory ⟨request, response⟩ = false := by
  rw [Answered.isNoted, Answered.isDrawn, Request.isLost, hmade, beq_false_of_ne hstatus]
  simp

/-- A drawing that is lost is answered with a failure. -/
theorem status_of_isLost (h : request.isLost workingDirectory = true) (database : Database) :
    (respond workingDirectory database request).1.reply.status = 500 := by
  rw [Request.isLost, Bool.and_eq_true] at h
  rcases respond_generate_cases h.1 workingDirectory with
    ⟨order, rules, outcome, hbody, hrules, hanalyze, hresponse⟩ | ⟨hnone, -⟩
  · rw [made?_eq_some_iff.mpr ⟨hbody, rules, hrules, hanalyze⟩, Option.any_some, Bool.and_eq_true,
      Bool.not_eq_true'] at h
    rw [hresponse, reply_handOut, Reply.handedOut, h.2.2]
    rfl
  · rw [hnone] at h
    exact absurd h.2 (by decide)

/-- **Without surrogates** in the body of a request no drawing is lost. -/
theorem isLost_eq_false {points : List Nat} (hpoints : Json.decode? request.body = some points)
    (hplain : ∀ p ∈ Json.writtenPoints points, Json.isSurrogate p = false) :
    request.isLost workingDirectory = false := by
  rw [Request.isLost, Bool.and_eq_false_iff]
  refine Or.inr (Bool.eq_false_iff.mpr fun hany => ?_)
  obtain ⟨⟨order, outcome⟩, hmade, hlost⟩ := (Option.any_eq_true _ _).mp hany
  dsimp only at hlost
  rw [standIns_of_ofBody (made?_eq_some_iff.mp hmade).1 hpoints,
    isShowable_drawing (Json.isEncodable_of hplain), Bool.not_true, Bool.and_false] at hlost
  exact Bool.noConfusion hlost

/-! ### Runs with a table -/

/-- **One request** to a service with a table: its drawing is noted and one row is added, or no row
is added. -/
theorem respond_ready_cases (workingDirectory : Path.Directory) (rows : List Generation)
    (request : Request) :
    let answer := respond workingDirectory (.ready rows) request
    (∃ g, Answered.isNoted workingDirectory ⟨request, answer.1⟩ = true ∧
      Answered.Notes workingDirectory ⟨request, answer.1⟩ g ∧ answer.2 = .ready (rows ++ [g])) ∨
    (Answered.isNoted workingDirectory ⟨request, answer.1⟩ = false ∧ answer.2 = .ready rows) := by
  dsimp only
  by_cases hasks : request.asks .generate = true
  · rcases respond_generate_cases hasks workingDirectory with
      ⟨order, rules, outcome, hbody, hrules, hanalyze, hresponse⟩ |
      ⟨hnone, reply, hstatus, hresponse⟩
    · have hmade := made?_eq_some_iff.mpr ⟨hbody, rules, hrules, hanalyze⟩
      have hreply :=
        reply_handOut (.ready rows) order (order.project workingDirectory rules) outcome
      have hnoted := isNoted_eq hasks hmade hreply
      rw [hresponse, hnoted, database_handOut]
      by_cases hencodable : order.standIns.isEncodable outcome.diagram = true
      · rw [if_pos hencodable]
        exact Or.inl ⟨_, hencodable, notes_of_drawing hbody hrules hanalyze hreply, rfl⟩
      · rw [if_neg hencodable]
        exact Or.inr ⟨Bool.eq_false_iff.mpr hencodable, rfl⟩
    · rw [hresponse]
      refine Or.inr ⟨isNoted_eq_false hnone fun heq => ?_, rfl⟩
      have hok : reply.status = 200 := heq
      rw [hok] at hstatus
      exact absurd hstatus (by decide)
  · rw [Bool.not_eq_true] at hasks
    refine Or.inr ⟨?_, database_respond_of_not_asks hasks workingDirectory _⟩
    rw [Answered.isNoted, Answered.isDrawn, Request.isLost, hasks, Bool.false_and, Bool.false_and,
      Bool.or_false]

/-- A request whose drawing is neither handed out nor lost adds no row. -/
theorem respond_ready_of_not_isNoted {rows : List Generation}
    (hstatus : (respond workingDirectory (.ready rows) request).1.reply.status ≠ 200)
    (hkept : request.isLost workingDirectory = false) :
    (respond workingDirectory (.ready rows) request).2 = .ready rows := by
  rcases respond_ready_cases workingDirectory rows request with ⟨g, hnoted, -, -⟩ | ⟨-, hsame⟩
  · rw [Answered.isNoted, Answered.isDrawn, hkept, beq_false_of_ne hstatus,
      Bool.and_false] at hnoted
    exact Bool.noConfusion hnoted
  · exact hsame

/-- **A run with a table** adds the rows of the drawings that are noted, in order. -/
theorem run_ready (workingDirectory : Path.Directory) (requests : List Request)
    (rows : List Generation) :
    ∃ more, (run workingDirectory (.ready rows) (requests.map .request)).2 = .ready (rows ++ more) ∧
      List.Forall₂ (Answered.Notes workingDirectory)
        ((answered workingDirectory (.ready rows) (requests.map .request)).filter
          (Answered.isNoted workingDirectory))
        more := by
  induction requests generalizing rows with
  | nil => exact ⟨[], by rw [List.append_nil]; rfl, .nil⟩
  | cons request requests ih =>
    rw [List.map_cons, answered_request, List.filter_cons]
    have hrun : (run workingDirectory (.ready rows)
        (.request request :: requests.map .request)).2 =
        (run workingDirectory (respond workingDirectory (.ready rows) request).2
          (requests.map .request)).2 := rfl
    rw [hrun]
    rcases respond_ready_cases workingDirectory rows request with
      ⟨g, hnoted, hnotes, hrows⟩ | ⟨hnone, hrows⟩
    · rw [if_pos hnoted, hrows]
      obtain ⟨more, hmore, hall⟩ := ih (rows ++ [g])
      refine ⟨g :: more, ?_, .cons hnotes hall⟩
      rw [hmore, List.append_assoc, List.singleton_append]
    · rw [hnone, hrows]
      exact ih rows

/-- A dropped table is not made again. -/
theorem run_withoutTable (workingDirectory : Path.Directory) (events : List Event) :
    (run workingDirectory .withoutTable events).2 = .withoutTable := by
  induction events with
  | nil => rfl
  | cons event events ih =>
    cases event with
    | dropTable => exact ih
    | request request =>
      have hkept : (respond workingDirectory .withoutTable request).2 = .withoutTable := by
        by_cases hasks : request.asks .generate = true
        · rcases respond_generate_cases hasks workingDirectory with
            ⟨order, rules, outcome, -, -, -, hresponse⟩ | ⟨-, reply, -, hresponse⟩
          · rw [hresponse, database_handOut]
            exact ite_self _
          · rw [hresponse]
            rfl
        · exact database_respond_of_not_asks (Bool.not_eq_true _ ▸ hasks) workingDirectory _
      have hrun : (run workingDirectory .withoutTable (.request request :: events)).2 =
          (run workingDirectory (respond workingDirectory .withoutTable request).2 events).2 := rfl
      rw [hrun, hkept, ih]

/-! ### The last rows -/

/-- Every number of entries from one to the greatest one can be asked for. -/
theorem readLimit_toString {limit : Nat} (hpos : 1 ≤ limit) (hle : limit ≤ greatestLimit) :
    readLimit (some (toString limit)) = .ok limit := by
  have hall : ∀ n ∈ List.range (greatestLimit + 1), 1 ≤ n →
      (readLimit (some (toString n))).toOption = some n := by decide +kernel
  have hlimit := hall limit (List.mem_range.mpr (by omega)) hpos
  cases hread : readLimit (some (toString limit)) with
  | error e => rw [hread] at hlimit; cases hlimit
  | ok n =>
    rw [hread] at hlimit
    rw [Option.some.inj hlimit]

/-- No other number of entries is read. -/
theorem readLimit_bounds {value? : Option String} {limit : Nat}
    (h : readLimit value? = .ok limit) :
    1 ≤ limit ∧ limit ≤ greatestLimit ∧ (value? = none → limit = defaultLimit) := by
  cases value? with
  | none =>
    obtain rfl := Except.ok.inj h
    exact ⟨by decide, by decide, fun _ => rfl⟩
  | some text =>
    rw [readLimit] at h
    dsimp only at h
    split at h
    · cases h
    · next n hn =>
      split at h
      · cases h
      · split at h
        · cases h
        · obtain rfl := Except.ok.inj h
          exact ⟨by omega, by omega, fun hnone => by cases hnone⟩

/-- **The last rows** of a table: as many as asked for or all of them, the newest first, each with
its number, and the numbers go down. -/
theorem recent_ready (limit : Nat) (rows : List Generation) :
    ∃ shown, (Database.ready rows).recent limit = some shown ∧
      shown.map Entry.generation = rows.reverse.take limit ∧
      shown.length = min limit rows.length ∧
      shown.Pairwise (fun newer older => older.number < newer.number) ∧
      ∀ e ∈ shown, 1 ≤ e.number ∧ rows[e.number - 1]? = some e.generation := by
  refine ⟨_, rfl, ?_, ?_, ?_, ?_⟩
  · rw [List.map_take, List.map_reverse, List.map_map]
    congr 2
    exact List.zipIdx_map_fst 1 rows
  · simp
  · refine List.Pairwise.sublist (List.take_sublist _ _) (List.pairwise_reverse.mpr ?_)
    rw [List.pairwise_map]
    have hnumbers : ((rows.zipIdx 1).map Prod.snd).Pairwise (· < ·) := by
      rw [List.zipIdx_map_snd]
      exact List.pairwise_lt_range'
    exact (List.pairwise_map.mp hnumbers).imp fun h => h
  · intro e he
    have he := List.mem_reverse.mp (List.mem_of_mem_take he)
    obtain ⟨⟨g, number⟩, hmem, rfl⟩ := List.mem_map.mp he
    exact List.mk_mem_zipIdx_iff_le_and_getElem?_sub.mp hmem

/-- The response to an accepted request for the last rows. -/
theorem respond_generations {request : Request} (hasks : request.asks .generations = true)
    {limit : Nat} (hlimit : readLimit (request.queryValue? "limit") = .ok limit)
    (workingDirectory : Path.Directory) (database : Database) :
    respond workingDirectory database request = showLog database limit := by
  rw [respond_of_asks hasks, serve, hlimit]

/-! ### The service from its start -/

/-- **A drawing that is lost** leaves its row: a service that has just been started and is asked for
nothing else answers with a failure and has one row then. -/
theorem run_of_isLost (h : request.isLost workingDirectory = true) :
    let started := (start .withoutTable).1
    let asked := [Event.request request]
    (answered workingDirectory started asked).map (·.response.reply.status) = [500] ∧
      (answered workingDirectory started asked).filter Answered.isDrawn = [] ∧
      ∃ g, (run workingDirectory started asked).2 = .ready [g] := by
  have hstatus := status_of_isLost h (.ready [])
  have hdrawn : Answered.isDrawn
      ⟨request, (respond workingDirectory (.ready []) request).1⟩ = false := by
    rw [Answered.isDrawn, hstatus]
    exact Bool.and_false _
  have hstarted : (start .withoutTable).1 = .ready [] := rfl
  dsimp only
  rw [hstarted, answered_request, answered_nil]
  refine ⟨congrArg (fun status => [status]) hstatus, ?_, ?_⟩
  · rw [List.filter_cons_of_neg (Bool.eq_false_iff.mp hdrawn), List.filter_nil]
  · rcases respond_ready_cases workingDirectory [] request with ⟨g, -, -, hrows⟩ | ⟨hnone, -⟩
    · exact ⟨g, hrows⟩
    · rw [Answered.isNoted, h, Bool.or_true] at hnone
      exact Bool.noConfusion hnone

/-- **The log of a run.** A service starts with a new database and is asked any requests. Its rows
are then one for every drawing that was asked for and noted, in order, with the counts of the order
and of the drawing, which the content of the response shows. These are the drawings that are handed
out, and those that are lost on the way. A request that is answered with a failure adds no other
row; a drawing that is lost is answered with one; and none is lost without a surrogate in the body.
Whoever asks for the last rows, from 1 to 200 of them, or 20 if nothing is said, gets as many of
them as there are, the newest first, by numbers that go down. After the table is dropped, whatever
happens then, nobody who asks for rows gets any, and drawings are handed out as before without a
note. -/
theorem run_log (workingDirectory : Path.Directory) (requests : List Request) :
    let started := (start .withoutTable).1
    let asked := requests.map Event.request
    let current := (run workingDirectory started asked).2
    (∃ rows, current = .ready rows ∧
      List.Forall₂ (Answered.Notes workingDirectory)
        ((answered workingDirectory started asked).filter fun a =>
          a.isDrawn || a.request.isLost workingDirectory) rows ∧
      ∀ request limit, Request.asks request .generations = true →
        readLimit (request.queryValue? "limit") = .ok limit →
        ∃ shown, (respond workingDirectory current request).1.reply = .entries shown ∧
          shown.map Entry.generation = rows.reverse.take limit ∧
          shown.length = min limit rows.length ∧
          shown.Pairwise (fun newer older => older.number < newer.number) ∧
          ∀ e ∈ shown, 1 ≤ e.number ∧ rows[e.number - 1]? = some e.generation) ∧
    (∀ request : Request,
      ((respond workingDirectory current request).1.reply.status ∈ [400, 404, 405, 422] →
        (respond workingDirectory current request).2 = current) ∧
      ((respond workingDirectory current request).1.reply.status = 500 →
        request.isLost workingDirectory = false →
        (respond workingDirectory current request).2 = current) ∧
      (request.isLost workingDirectory = true →
        (respond workingDirectory current request).1.reply.status = 500) ∧
      ∀ points, Json.decode? request.body = some points →
        (∀ p ∈ Json.writtenPoints points, Json.isSurrogate p = false) →
        request.isLost workingDirectory = false) ∧
    ((∀ value? limit, readLimit value? = .ok limit →
        1 ≤ limit ∧ limit ≤ 200 ∧ (value? = none → limit = 20)) ∧
      ∀ limit, 1 ≤ limit → limit ≤ 200 → readLimit (some (toString limit)) = .ok limit) ∧
    ∀ later : List Event,
      let dropped := (run workingDirectory started (asked ++ .dropTable :: later)).2
      dropped = .withoutTable ∧
      (∀ request limit, Request.asks request .generations = true →
        readLimit (request.queryValue? "limit") = .ok limit →
        (respond workingDirectory dropped request).1.reply.status = 503) ∧
      ∀ request, Request.asks request .generate = true →
        (respond workingDirectory dropped request).1.reply =
          (respond workingDirectory current request).1.reply ∧
        (respond workingDirectory dropped request).2 = dropped := by
  have hstarted : (start .withoutTable).1 = .ready [] := rfl
  obtain ⟨rows, hrows, hnotes⟩ := run_ready workingDirectory requests []
  rw [List.nil_append] at hrows
  dsimp only
  rw [hstarted, hrows]
  refine ⟨⟨rows, rfl, hnotes, fun request limit hasks hlimit => ?_⟩,
    fun request => ⟨fun hstatus => ?_, fun hstatus hkept => ?_,
      fun hlost => status_of_isLost hlost _, fun _ => isLost_eq_false⟩,
    ⟨fun _ _ => readLimit_bounds, fun _ => readLimit_toString⟩, fun later => ?_⟩
  · obtain ⟨shown, hrecent, hshown⟩ := recent_ready limit rows
    refine ⟨shown, ?_, hshown⟩
    rw [respond_generations hasks hlimit, showLog, hrecent]
    rfl
  · refine respond_ready_of_not_isNoted (fun heq => ?_) (Bool.eq_false_iff.mpr fun hlost => ?_)
    · exact absurd (heq ▸ hstatus) (by decide)
    · exact absurd (status_of_isLost hlost _ ▸ hstatus) (by decide)
  · refine respond_ready_of_not_isNoted (fun heq => ?_) hkept
    exact absurd (hstatus.symm.trans heq) (by decide)
  · have hdropped : (run workingDirectory (.ready [])
        (requests.map Event.request ++ .dropTable :: later)).2 = .withoutTable := by
      rw [run_append, hrows]
      exact run_withoutTable workingDirectory later
    rw [hdropped]
    refine ⟨rfl, fun request limit hasks hlimit => ?_, fun request hasks => ?_⟩
    · rw [respond_generations hasks hlimit]
      rfl
    · exact ⟨reply_respond_generate hasks workingDirectory _ _,
        run_withoutTable workingDirectory [.request request]⟩

/-- A request for the last row. -/
def lastRowRequest : Request where
  method := "GET"
  path := "/generations"
  query := [("limit", "1")]

/-- A request for a drawing that cannot be read. -/
def garbledRequest : Request :=
  { blankRequest with body := [0] }

/-- A request for a blank drawing with a surrogate in its title. -/
def tornRequest : Request :=
  { blankRequest with body := Text.Utf8.encode "\x7b\"title\":\"\\ud800\"\x7d".toList }

/-- The drawing with a surrogate in its title is lost: its statements lack a byte of the character
that stands in for the surrogate. -/
theorem isLost_tornRequest : tornRequest.isLost [] = true := by
  have hasks : tornRequest.asks .generate = true := by decide +kernel
  have hmade : (tornRequest.made? []).any (fun made =>
      made.1.title?.any (fun title => !made.1.standIns.isEncodable title) &&
        made.1.standIns.pairs.all fun entry => entry.2 != '\n' &&
          (Diagram.statements made.2.model).all fun s =>
            (String.utf8EncodeChar entry.2).any fun b =>
              !s.print.toByteArray.data.toList.contains b) = true := by
    decide +kernel
  obtain ⟨⟨order, outcome⟩, hsome, hfacts⟩ := (Option.any_eq_true _ _).mp hmade
  obtain ⟨htitle, hpairs⟩ := Bool.and_eq_true_iff.mp hfacts
  obtain ⟨title, heq, htorn⟩ := (Option.any_eq_true _ _).mp htitle
  obtain ⟨-, rules, -, hanalyze⟩ := made?_eq_some_iff.mp hsome
  have hdiagram : order.standIns.isEncodable outcome.diagram = true := by
    rw [Project.diagram_eq hanalyze]
    refine isEncodable_render (fun entry hentry => ?_) fun s hs =>
      Json.isEncodable_of_bytes fun entry hentry => ?_
    · exact bne_iff_ne.mp (Bool.and_eq_true_iff.mp (List.all_eq_true.mp hpairs entry hentry)).1
    · have hlacks := (Bool.and_eq_true_iff.mp (List.all_eq_true.mp hpairs entry hentry)).2
      simpa using List.all_eq_true.mp hlacks s hs
  have hlost : (Reply.drawing order.title? outcome).isShowable order.standIns = false := by
    rw [heq]
    refine Bool.eq_false_iff.mpr fun hshown => ?_
    rw [isEncodable_title hshown] at htorn
    exact Bool.noConfusion htorn
  rw [Request.isLost, hasks, hsome, Option.any_some]
  dsimp only
  rw [hdiagram, hlost]
  rfl

/-- **A request that is answered with a failure can add a row.** A service that has just been
started notes the drawing with a surrogate in its title, and hands no drawing out. -/
theorem tornRequest_adds_row :
    let started := (start .withoutTable).1
    let asked := [Event.request tornRequest]
    (answered [] started asked).map (·.response.reply.status) = [500] ∧
      (answered [] started asked).filter Answered.isDrawn = [] ∧
      ∃ g, (run [] started asked).2 = .ready [g] :=
  run_of_isLost isLost_tornRequest

/-- Two requests for a blank drawing, and one between them that cannot be read. -/
def blankRequests : List Request :=
  [blankRequest, garbledRequest, blankRequest]

/-- A service that answers these requests has two rows then, and shows one of them, until its table
is dropped; no drawing is lost but the one with a surrogate in its title. -/
theorem run_log_blank :
    let asked := blankRequests.map Event.request
    let current := (run [] (start .withoutTable).1 asked).2
    let dropped := (run [] (start .withoutTable).1 (asked ++ [.dropTable])).2
    (∃ rows shown, current = .ready rows ∧ rows.length = 2 ∧
      (respond [] current lastRowRequest).1.reply = .entries shown ∧ shown.length = 1) ∧
    ((respond [] current garbledRequest).1.reply.status = 422 ∧
      (respond [] current garbledRequest).2 = current) ∧
    (tornRequest.isLost [] = true ∧ (respond [] current tornRequest).1.reply.status = 500) ∧
    blankRequest.isLost [] = false ∧
    (respond [] dropped lastRowRequest).1.reply.status = 503 ∧
    (respond [] dropped blankRequest).1.reply = (respond [] current blankRequest).1.reply := by
  have hlast : lastRowRequest.asks .generations = true := by decide +kernel
  have hblank : blankRequest.asks .generate = true := by decide +kernel
  have hlimit : readLimit (lastRowRequest.queryValue? "limit") = .ok 1 :=
    @readLimit_toString 1 (by decide) (by decide)
  have hstatus : (respond [] (run [] (start .withoutTable).1 (blankRequests.map Event.request)).2
      garbledRequest).1.reply.status = 422 := by decide +kernel
  have hcount : (answered [] (start .withoutTable).1 (blankRequests.map Event.request)).countP
      (fun a => a.isDrawn || a.request.isLost []) = 2 := by decide +kernel
  have hpoints : Json.decode? blankRequest.body = some [0x7B, 0x7D] := by decide +kernel
  have hplain : ∀ p ∈ Json.writtenPoints [0x7B, 0x7D], Json.isSurrogate p = false := by
    decide +kernel
  obtain ⟨⟨rows, hrows, hnotes, hshow⟩, hfailed, -, hdropped⟩ := run_log [] blankRequests
  obtain ⟨-, hnone, hsame⟩ := hdropped []
  obtain ⟨shown, hreply, -, hlength, -⟩ := hshow lastRowRequest 1 hlast hlimit
  have htwo : rows.length = 2 := by
    rw [← hnotes.length_eq, ← List.countP_eq_length_filter, hcount]
  have hone : shown.length = 1 := by
    rw [hlength, htwo]
    rfl
  obtain ⟨hgarbled, -, -, -⟩ := hfailed garbledRequest
  obtain ⟨-, -, hlost, -⟩ := hfailed tornRequest
  obtain ⟨-, -, -, hkept⟩ := hfailed blankRequest
  refine ⟨⟨rows, shown, hrows, htwo, hreply, hone⟩, ⟨hstatus, ?_⟩, ⟨isLost_tornRequest, ?_⟩,
    ?_, ?_, ?_⟩
  · exact hgarbled (by rw [hstatus]; decide)
  · exact hlost isLost_tornRequest
  · exact hkept _ hpoints hplain
  · exact hnone lastRowRequest 1 hlast hlimit
  · exact (hsame blankRequest hblank).1

end SystemSketch.Service
