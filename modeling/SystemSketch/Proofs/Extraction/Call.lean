import SystemSketch.Proofs.Extraction.Identifier
import SystemSketch.Proofs.Recognition.Pattern

/-!
# The calls of a page

A page calls the server by fetching routes and by opening a realtime connection. Taking up its file
leaves exactly one record of every call: an interaction if a component takes the call, and an open
reference otherwise. The records are told apart only when they are stored, so each of the two lists
grows by its part of them, in the order of the calls.

## Main definitions

* `Call`, `calls` — the calls of a text, in source order.
* `Call.IsTakenBy` — which components take a call.
* `Call.record` — the record that a call leaves.
* `Model.TakesUp` — what a model gains by a page and its calls.

## Main results

* `pageReferences_eq_map_reference` — a page asks one question for every call.
* `Call.filterMap_getLeft?_record`, `Call.filterMap_getRight?_record` — the answers to the
  questions, and the questions without an answer, are the two parts of the records.
* `Model.analyzePage_records` — a client file with a path is taken up with all its calls.
-/

namespace SystemSketch

open Recognition

/-! ### Calls and their records -/

/-- How a page reaches the server. -/
inductive Call where
  /-- It fetches a route. -/
  | fetch (route : String)
  /-- It opens a realtime connection. -/
  | realtime
  deriving DecidableEq

/-- The calls of a text: the endpoint roots that are not empty, in source order, and the realtime
connection if the hook occurs. -/
def calls (rules : Rules) (text : String) : List Call :=
  ((endpointRoots rules.apiBaseVariable text).filter (· ≠ "")).map Call.fetch ++
    if rules.realtimeHook.toList <:+: text.toList then [.realtime] else []

namespace Call

/-- Whether a component takes a call: a controller takes the routes whose path its label shows,
and a gateway takes realtime connections. -/
def IsTakenBy (c : Component) : Call → Prop
  | fetch route => c.kind = .controller ∧ ("/api/" ++ route).toList <:+: c.label.toList
  | realtime => c.kind = .gateway

instance (c : Component) : DecidablePred (IsTakenBy c)
  | fetch _ => inferInstanceAs (Decidable (_ ∧ _))
  | realtime => inferInstanceAs (Decidable (_ = _))

/-- The interaction of a page with the component that takes its call. -/
def interaction (page : String) (c : Component) : Call → Interaction
  | fetch route => { source := page, target := c.id, label := "GET /api/" ++ route }
  | realtime => { source := page, target := c.id, label := "connects to", isAsync := true }

/-- The reference that stays open if no component takes a call. -/
def reference (page : String) : Call → Reference
  | fetch route => { source := page, kind := .controller, route := some route }
  | realtime => { source := page, kind := .gateway, isAsync := true }

/-- **The record of a call:** an interaction with the first component that takes it, or an open
reference. -/
def record (page : String) (components : List Component) (call : Call) : Interaction ⊕ Reference :=
  match components.find? fun c => call.IsTakenBy c with
  | some c => .inl (call.interaction page c)
  | none => .inr (call.reference page)

section

variable (page : String) (components : List Component) (call : Call)

/-- The question of a call accepts the components that take it. -/
theorem accepts_reference (c : Component) :
    (call.reference page).accepts c = decide (call.IsTakenBy c) := by
  cases call with
  | fetch route =>
    rw [Bool.eq_iff_iff, decide_eq_true_iff]
    exact Reference.accepts_toController_iff
  | realtime =>
    rw [Bool.eq_iff_iff, decide_eq_true_iff]
    show (Reference.toGateway page).accepts c = true ↔ _
    rw [Reference.accepts_toGateway, beq_iff_eq]
    rfl

/-- The answer to the question of a call is its interaction. -/
theorem answerOf_reference (c : Component) :
    (call.reference page).answerOf c = call.interaction page c := by
  cases call <;> rfl

/-- A record is an interaction exactly if the question of the call has an answer. -/
theorem record_eq : call.record page components =
    match (call.reference page).answerAmong? components with
    | some i => .inl i
    | none => .inr (call.reference page) := by
  have haccepts : (call.reference page).accepts = fun c => decide (call.IsTakenBy c) :=
    funext (accepts_reference page call)
  rw [record, Reference.answerAmong?, haccepts]
  cases components.find? fun c => decide (call.IsTakenBy c) with
  | none => rfl
  | some c => exact congrArg Sum.inl (answerOf_reference page call c).symm

/-- **The interactions among the records** are the answers to the questions. -/
theorem filterMap_getLeft?_record (calls : List Call) :
    (calls.map (record page components)).filterMap Sum.getLeft? =
      (calls.map (reference page)).filterMap fun r => r.answerAmong? components := by
  rw [List.filterMap_map, List.filterMap_map]
  congr 1
  funext call
  rw [Function.comp_apply, Function.comp_apply, record_eq]
  cases (call.reference page).answerAmong? components <;> rfl

/-- **The references among the records** are the questions without an answer. -/
theorem filterMap_getRight?_record (calls : List Call) :
    (calls.map (record page components)).filterMap Sum.getRight? =
      (calls.map (reference page)).filter fun r => (r.answerAmong? components).isNone := by
  rw [List.filterMap_map, ← List.filterMap_eq_filter, List.filterMap_map]
  congr 1
  funext call
  rw [Function.comp_apply, Function.comp_apply, record_eq]
  cases h : (call.reference page).answerAmong? components <;> simp [Option.guard, h]

/-- Every record is of one of the two sorts. -/
theorem length_records (records : List (Interaction ⊕ Reference)) :
    (records.filterMap Sum.getLeft?).length + (records.filterMap Sum.getRight?).length =
      records.length := by
  induction records with
  | nil => rfl
  | cons record rest ih =>
    cases record with
    | inl i =>
      simp only [List.filterMap_cons, Sum.getLeft?_inl, Sum.getRight?_inl, List.length_cons]
      omega
    | inr r =>
      simp only [List.filterMap_cons, Sum.getLeft?_inr, Sum.getRight?_inr, List.length_cons]
      omega

end

end Call

/-- **A page asks one question for every call.** -/
theorem pageReferences_eq_map_reference (rules : Rules) (text page : String) :
    pageReferences rules text page = (calls rules text).map (Call.reference page) := by
  have hroutes : fetchedRoutes rules text =
      (endpointRoots rules.apiBaseVariable text).filter (· ≠ "") := by
    rw [fetchedRoutes]
    congr 1
    funext route
    by_cases h : route = "" <;> simp [h]
  have hhook : usesRealtime rules.realtimeHook text = true ↔
      rules.realtimeHook.toList <:+: text.toList := Pattern.occursIn_literal_iff
  rw [pageReferences, calls, List.map_append, List.map_map, hroutes]
  congr 1
  simp only [hhook]
  split <;> rfl

/-! ### Taking up a page -/

namespace Model

/-- What a model gains by a page and its calls: the page is stored under its identifier and nothing
else is touched in the roster, every call leaves its record, and there is a remark if the page takes
the place of another component. -/
structure TakesUp (m : Model) (page : Component) (calls : List Call) (m' : Model) : Prop where
  stored : m'.get? page.id = some page
  others : ∀ id, id ≠ page.id → m'.get? id = m.get? id
  order : m'.components.keys =
    if m.has page.id then m.components.keys else m.components.keys ++ [page.id]
  /-- The calls that find a component, among those of the model with the page. -/
  interactions : m'.interactions = m.interactions ++
    (calls.map (Call.record page.id (m.upsert page).components.toList)).filterMap Sum.getLeft?
  /-- The calls that find none. -/
  pending : m'.pending = m.pending ++
    (calls.map (Call.record page.id (m.upsert page).components.toList)).filterMap Sum.getRight?
  /-- No call is lost, and none is there twice. -/
  count : m'.interactions.length + m'.pending.length =
    m.interactions.length + m.pending.length + calls.length
  diagnostics : m'.diagnostics = m.diagnostics ++
    ((m.get? page.id).map fun old => Collision.diagnostic ⟨old, page⟩).toList
  remarks : m'.diagnostics.length = m.diagnostics.length + if m.has page.id then 1 else 0

/-- A collision is recorded exactly for an identifier that is known. -/
theorem diagnostics_upsert (m : Model) (c : Component) :
    (m.upsert c).diagnostics =
      m.diagnostics ++ ((m.get? c.id).map fun old => Collision.diagnostic ⟨old, c⟩).toList := by
  rw [diagnostics, diagnostics, upsert]
  cases m.get? c.id with
  | none => exact (List.append_nil _).symm
  | some old => exact List.map_append

/-- An identifier is known exactly if it finds a component. -/
theorem isSome_get? (m : Model) (id : String) : (m.get? id).isSome = m.has id := by
  rw [Bool.eq_iff_iff, has, Keyed.contains_iff, Option.isSome_iff_ne_none, get?, ne_eq,
    Keyed.get?_eq_none_iff, not_not]

/-- **Questions of calls**, asked once the page is stored. -/
theorem takesUp_foldl_connect (m : Model) (page : Component) (calls : List Call) :
    m.TakesUp page calls
      ((calls.map (Call.reference page.id)).foldl connect (m.upsert page)) := by
  -- Questions leave the roster alone, so the one with the page answers all of them.
  have hanswers : (m.upsert page).answer? =
      fun r => r.answerAmong? (m.upsert page).components.toList :=
    funext (answer?_eq_answerAmong? (m.upsert page))
  have hdiagnostics := diagnostics_upsert m page
  rw [foldl_connect, hanswers, ← Call.filterMap_getLeft?_record, ← Call.filterMap_getRight?_record]
  refine ⟨?_, ?_, ?_, rfl, rfl, ?_, hdiagnostics, ?_⟩
  · exact Keyed.get?_insert_self page m.components
  · exact fun id hid => Keyed.get?_insert_of_ne hid m.components
  · simp only [has, Keyed.contains_iff]
    exact Keyed.keys_insert page m.components
  · have hrecords := Call.length_records
      (calls.map (Call.record page.id (m.upsert page).components.toList))
    rw [List.length_map] at hrecords
    rw [List.length_append, List.length_append, ← hrecords]
    show m.interactions.length + _ + (m.pending.length + _) = _
    omega
  · rw [← isSome_get?]
    show (m.upsert page).diagnostics.length = _
    rw [hdiagnostics, List.length_append]
    cases m.get? page.id <;> rfl

/-- **No call of a page is lost, and none is recorded twice.** A client file with a path has an
address below every root, and is always taken up as the page of this address with its calls: the
fetched routes in source order, then the realtime connection. -/
theorem analyzePage_records (m : Model) (root : PageRoot) (rules : Rules) {file : SourceFile}
    (hpath : file.path ≠ "") :
    ∃ address m', root.address rules.pageFilenames file.path = .ok address ∧
      m.analyzePage root rules file = .ok m' ∧
      m.TakesUp ⟨pageId address, .clientPage, pageLabel address, file.path⟩
        (calls rules file.text) m' := by
  obtain ⟨facts, hfacts⟩ := exists_pageFacts root rules hpath
  obtain ⟨address, haddress, hpage, hreferences⟩ := pageFacts_eq_ok hfacts
  refine ⟨address, m.recordPage facts, haddress, ?_, ?_⟩
  · rw [analyzePage, hfacts]
    rfl
  · rw [recordPage, hpage, hreferences, pageReferences_eq_map_reference]
    exact takesUp_foldl_connect m _ (calls rules file.text)

/-- A model with a page that was read before, and two controllers. -/
def atrium : Model :=
  ((empty.upsert ⟨"Page(/)", .clientPage, "/", "client/app/page.js"⟩).upsert
    ⟨"Orders", .controller, "Orders<br><small>/api/orders</small>", "server/orders.ts"⟩).upsert
    ⟨"Archive", .controller, "Archive<br><small>/api/orders/old</small>", "server/archive.ts"⟩

/-- A page that fetches a route twice, an endpoint without a first segment and a route that nobody
serves, and that opens a connection. -/
def visit : SourceFile where
  path := "client/app/page.tsx"
  text := "fetch(`$\x7bapiUrl\x7d/api/orders/7`) fetch(`$\x7bapiUrl\x7d/api//x`) " ++
    "fetch(`$\x7bapiUrl\x7d/api/users?all`) fetch(`$\x7bapiUrl\x7d/api/orders`) useSocket()"

/-- The visit to the atrium: four calls with four records, in two lists. -/
theorem analyzePage_records_atrium :
    visit.path ≠ "" ∧
      calls {} visit.text = [.fetch "orders", .fetch "users", .fetch "orders", .realtime] ∧
      ∃ m', atrium.analyzePage ⟨["work"], "client/app"⟩ {} visit = .ok m' ∧
        atrium.TakesUp ⟨"Page(/)", .clientPage, "/", visit.path⟩ (calls {} visit.text) m' ∧
        m'.interactions =
          [{ source := "Page(/)", target := "Orders", label := "GET /api/orders" },
            { source := "Page(/)", target := "Orders", label := "GET /api/orders" }] ∧
        m'.pending = [.toController "Page(/)" "users", .toGateway "Page(/)"] ∧
        m'.diagnostics.length = 1 := by
  have hpath : visit.path ≠ "" := by decide
  have hcalls : calls {} visit.text =
      [.fetch "orders", .fetch "users", .fetch "orders", .realtime] := by decide +kernel
  obtain ⟨address, m', haddress, hm', h⟩ :=
    analyzePage_records atrium ⟨["work"], "client/app"⟩ {} hpath
  have hempty : PageRoot.address ⟨["work"], "client/app"⟩ ({} : Rules).pageFilenames visit.path =
      .ok "" := by decide +kernel
  obtain rfl : address = "" := Except.ok.inj (haddress.symm.trans hempty)
  refine ⟨hpath, hcalls, m', hm', h, ?_, ?_, ?_⟩
  · rw [h.interactions, hcalls]
    decide +kernel
  · rw [h.pending, hcalls]
    decide +kernel
  · rw [h.remarks]
    decide +kernel

end Model

end SystemSketch
