import SystemSketch.Proofs.Failure
import SystemSketch.Proofs.Json.Surrogate
import SystemSketch.Service.Basic

/-!
# What can be sent

A reply is handed out as it is, or the service breaks down over it. A drawing has no numbers but
counts, so nothing but a text of it can stand in the way; and where no surrogate is written in the
body of a request, nothing does.

## Main results

* `status_handedOut` — what becomes of a reply.
* `isEncodable_of_isShowable` — a drawing that can be sent has a diagram and a document that can be
  encoded.
* `isEncodable_title` — it has a title that can be encoded, too.
* `isEncodable_render` — a diagram can be encoded if its statements can be.
* `isShowable_drawing` — a drawing of texts that can be encoded can be sent.
* `standIns_of_ofBody` — an order comes with the stand-ins of its body.
-/

namespace SystemSketch.Service

variable {standIns : Json.StandIns}

/-! ### Values -/

/-- A list can be handed out if all its items can be. -/
theorem areItemsShowable_of {items : List Json}
    (h : ∀ item ∈ items, isShowable standIns item = true) :
    areItemsShowable standIns items = true := by
  induction items with
  | nil => rfl
  | cons item items ih =>
    obtain ⟨hitem, hitems⟩ := List.forall_mem_cons.mp h
    rw [areItemsShowable, hitem, ih hitems]
    rfl

/-- Values in a row can be handed out if each of them can be. -/
theorem isShowable_map {α : Type} {toJson : α → Json} {as : List α}
    (h : ∀ a ∈ as, isShowable standIns (toJson a) = true) :
    isShowable standIns (.list (as.map toJson)) = true := by
  refine areItemsShowable_of fun json hjson => ?_
  obtain ⟨a, ha, rfl⟩ := List.mem_map.mp hjson
  exact h a ha

/-- An object can be handed out if all its names and values can be. -/
theorem areMembersShowable_of {members : List (String × Json)}
    (h : ∀ member ∈ members,
      standIns.isEncodable member.1 = true ∧ isShowable standIns member.2 = true) :
    areMembersShowable standIns members = true := by
  induction members with
  | nil => rfl
  | cons member members ih =>
    obtain ⟨⟨hname, hvalue⟩, hmembers⟩ := List.forall_mem_cons.mp h
    rw [areMembersShowable, hname, hvalue, ih hmembers, Bool.and_true, Bool.and_true,
      Bool.or_true]

section

variable (h : ∀ text, standIns.isEncodable text = true)

include h

/-- An object of these members can be handed out if their values can be. -/
theorem isShowable_object {members : List (String × Json)}
    (hvalues : members.Forall fun member => isShowable standIns member.2 = true) :
    isShowable standIns (.object members) = true :=
  areMembersShowable_of fun member hmember =>
    ⟨h member.1, List.forall_iff_forall_mem.mp hvalues member hmember⟩

/-- An optional text can be handed out. -/
theorem isShowable_optional (value? : Option String) :
    isShowable standIns (.optional value?) = true := by
  cases value? with
  | none => rfl
  | some value => exact h value

/-- Statistics can be handed out. -/
theorem isShowable_stats (stats : Validation.Stats) : isShowable standIns stats.toJson = true :=
  isShowable_object h ⟨rfl, rfl, rfl, rfl, rfl, rfl, rfl, rfl, rfl⟩

/-- An issue can be handed out. -/
theorem isShowable_issue (issue : Validation.Issue) : isShowable standIns issue.toJson = true :=
  isShowable_object h ⟨h _, h _, h _, isShowable_optional h _, isShowable_optional h _,
    isShowable_optional h _⟩

/-- A report can be handed out. -/
theorem isShowable_report (report : Validation.Report) :
    isShowable standIns report.toJson = true :=
  isShowable_object h ⟨rfl, rfl, rfl, rfl, rfl,
    isShowable_map fun issue _ => isShowable_issue h issue, isShowable_stats h report.stats⟩

/-- A component can be handed out. -/
theorem isShowable_component (c : Component) : isShowable standIns c.toJson = true :=
  isShowable_object h ⟨h _, h _, h _, h _, h _⟩

/-- **A drawing of texts that can be encoded** can be sent: its numbers are counts. -/
theorem isShowable_drawing (title? : Option String) (outcome : Outcome) :
    (Reply.drawing title? outcome).isShowable standIns = true := by
  have hdiagnostics (d : Diagnostic) : isShowable standIns (Datum.ofDiagnostic d).toJson = true :=
    isShowable_object h ⟨h _, h _, h _, h _⟩
  have hinteractions (i : Interaction) :
      isShowable standIns (Datum.ofInteraction i).toJson = true :=
    isShowable_object h ⟨h _, h _, h _, rfl⟩
  exact isShowable_object h ⟨h _, h _, h _, isShowable_report h outcome.report,
    isShowable_map fun d _ => hdiagnostics d, isShowable_stats h outcome.report.stats,
    isShowable_map fun c _ => isShowable_component h c, isShowable_map fun i _ => hinteractions i⟩

end

/-- If the members of an object can be handed out, so can the value of the first one, unless its
name makes it count for nothing, and the other members. -/
theorem isShowable_of_areMembersShowable {name : String} {value : Json}
    {members : List (String × Json)}
    (h : areMembersShowable standIns ((name, value) :: members) = true)
    (hcounts : (members.any (·.1 == name) ||
      (Text.after? "_sa".toList name.toList).isSome) = false) :
    isShowable standIns value = true ∧ areMembersShowable standIns members = true := by
  rw [areMembersShowable, hcounts, Bool.false_or, Bool.and_eq_true, Bool.and_eq_true] at h
  exact ⟨h.1.2, h.2⟩

/-- A drawing can only be sent if its diagram and its document can be encoded. -/
theorem isEncodable_of_isShowable {title? : Option String} {outcome : Outcome}
    (h : (Reply.drawing title? outcome).isShowable standIns = true) :
    standIns.isEncodable outcome.diagram = true ∧
      standIns.isEncodable (Diagram.markdown outcome.diagram title?) = true := by
  obtain ⟨-, hmembers⟩ := isShowable_of_areMembersShowable h rfl
  obtain ⟨hmermaid, hmembers⟩ := isShowable_of_areMembersShowable hmembers rfl
  obtain ⟨hmarkdown, -⟩ := isShowable_of_areMembersShowable hmembers rfl
  exact ⟨hmermaid, hmarkdown⟩

/-- A diagram can be encoded if all its statements can be. -/
theorem isEncodable_render {m : Model} (hfeed : ∀ entry ∈ standIns.pairs, entry.2 ≠ '\n')
    (h : ∀ s ∈ Diagram.statements m, standIns.isEncodable s.print = true) :
    standIns.isEncodable (Diagram.render m) = true := by
  simp only [Json.isEncodable_iff_notMem] at h ⊢
  intro entry hentry hmem
  rw [Diagram.render, String.toList_ofList, Text.unlines, List.flatMap_map,
    List.mem_flatMap] at hmem
  obtain ⟨s, hs, hmem⟩ := hmem
  rcases List.mem_append.mp hmem with hprint | hend
  · exact h s hs entry hentry hprint
  · exact hfeed entry hentry (List.mem_singleton.mp hend)

/-- A drawing can only be sent if the title of its document can be encoded. -/
theorem isEncodable_title {title : String} {outcome : Outcome}
    (h : (Reply.drawing (some title) outcome).isShowable standIns = true) :
    standIns.isEncodable title = true := by
  have hmarkdown := (isEncodable_of_isShowable h).2
  rw [Diagram.markdown, Json.isEncodable_append, Json.isEncodable_append,
    Json.isEncodable_append] at hmarkdown
  exact hmarkdown.1.1.2

/-! ### Replies -/

/-- A reply is handed out as it is, or the service breaks down over it. -/
theorem status_handedOut (standIns : Json.StandIns) (reply : Reply) :
    (reply.handedOut standIns).status ∈ [reply.status, 500] := by
  rw [Reply.handedOut]
  split
  · exact List.mem_cons_self
  · exact List.mem_cons_of_mem _ List.mem_cons_self

/-- Complaints are no drawing. -/
theorem status_ofComplaints (standIns : Json.StandIns) (complaints : List Complaint) :
    (Reply.ofComplaints standIns complaints).status ∈ [422, 500] := by
  rw [Reply.ofComplaints]
  split
  · exact List.mem_cons_self
  · exact List.mem_cons_of_mem _ List.mem_cons_self

/-- A reply that is answered with success is one that can be handed out. -/
theorem isShowable_of_status {reply : Reply}
    (h : (reply.handedOut standIns).status = 200) : reply.isShowable standIns = true := by
  rw [Reply.handedOut] at h
  split at h
  · assumption
  · exact absurd h (by decide)

/-! ### Orders -/

/-- A value is put together if both of its parts are there. -/
theorem Checked.andAlso_eq_ok_iff {α β : Type} {make : Checked (α → β)} {part : Checked α} {b : β} :
    Checked.andAlso make part = .ok b ↔ ∃ f a, make = .ok f ∧ part = .ok a ∧ f a = b := by
  cases make <;> cases part <;> simp [Checked.andAlso]

/-- An order that is read comes with the given stand-ins. -/
theorem standIns_of_read {place : List Step} {json : Json} {order : Order}
    (h : Order.read standIns place json = .ok order) : order.standIns = standIns := by
  cases json with
  | object members =>
    rw [Order.read] at h
    -- member by member, from the last one to the first
    obtain ⟨_, _, hresolve, -, rfl⟩ := Checked.andAlso_eq_ok_iff.mp h
    obtain ⟨_, _, htitle, -, rfl⟩ := Checked.andAlso_eq_ok_iff.mp hresolve
    obtain ⟨_, _, hroot, -, rfl⟩ := Checked.andAlso_eq_ok_iff.mp htitle
    obtain ⟨_, _, hclient, -, rfl⟩ := Checked.andAlso_eq_ok_iff.mp hroot
    obtain ⟨_, _, hserver, -, rfl⟩ := Checked.andAlso_eq_ok_iff.mp hclient
    obtain ⟨_, _, hmake, -, rfl⟩ := Checked.andAlso_eq_ok_iff.mp hserver
    obtain rfl := Except.ok.inj hmake
    rfl
  | _ => cases h

/-- **An order** comes with the stand-ins for the surrogates that are written in its body. -/
theorem standIns_of_ofBody {body : List UInt8} {order : Order} {points : List Nat}
    (h : Order.ofBody body = .ok order) (hpoints : Json.decode? body = some points) :
    order.standIns = .of points := by
  rw [Order.ofBody, hpoints] at h
  dsimp only at h
  split at h
  · cases h
  · split at h
    · cases h
    · cases h
    · exact standIns_of_read (mapError_eq_ok_iff.mp h)

end SystemSketch.Service
