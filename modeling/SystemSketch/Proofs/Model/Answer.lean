import SystemSketch.Proofs.Keyed
import SystemSketch.Proofs.Model.History
import SystemSketch.Proofs.Text.Search

/-!
# Questions and their answers

A reference is answered by the first component of the roster that it accepts, and only
controllers and gateways are ever accepted. What the other components of a roster are therefore
does not matter to any question, and a question that finds its answer among the first components
finds the same one among all of them.

## Main definitions

* `Reference.accepts`, `Reference.answerOf` — which components answer a reference, and how.
* `Model.answerers` — the components of a model that answer questions at all.
* `Model.Settled` — every open question of a model is a page's question without an answer.

## Main results

* `Model.answer?_eq_answerAmong?` — the answer to a reference is that of the first accepted
  component.
* `Reference.answers_of_prefix` — an answer among the first components is the answer.
* `Model.exists_of_answer?_eq_some`, `Model.exists_answer?_of_accepts` — where answers come from.
* `Model.answerers_upsert` — entering a component that answers nothing, in the place of none that
  does, changes no answer.
* `Model.foldl_connect` — questions asked one after the other.
* `Model.resolvePending_eq_self`, `Model.resolvePending_of_settled` — when asking again is of no
  use.
-/

namespace SystemSketch

/-- Whether a component answers a reference. -/
def Reference.accepts (r : Reference) (c : Component) : Bool :=
  if r.kind = .controller then c.kind == .controller && c.serves r.lookupRoute
  else c.kind == .gateway

/-- The interaction that a reference becomes when a component answers it. -/
def Reference.answerOf (r : Reference) (c : Component) : Interaction :=
  if r.kind = .controller then
    { source := r.source, target := c.id, label := "GET /api/" ++ r.lookupRoute }
  else { source := r.source, target := c.id, label := "connects to", isAsync := true }

/-- Whether a component answers questions: controllers and gateways do. -/
def Component.answers (c : Component) : Bool :=
  c.kind == .controller || c.kind == .gateway

/-- The interaction that a reference becomes among components: the first one that it accepts
answers it. -/
def Reference.answerAmong? (r : Reference) (components : List Component) : Option Interaction :=
  (components.find? r.accepts).map r.answerOf

/-- Only a component that answers questions is accepted. -/
theorem Component.answers_of_accepts {r : Reference} {c : Component} (h : r.accepts c = true) :
    c.answers = true := by
  rw [Reference.accepts] at h
  rw [answers, Bool.or_eq_true]
  split at h
  · exact Or.inl (Bool.and_eq_true_iff.mp h).1
  · exact Or.inr h

/-- A component serves a route exactly if its label shows it. -/
theorem Component.serves_eq_false_iff {c : Component} {route : String} :
    c.serves route = false ↔ ¬("/api/" ++ route).toList <:+: c.label.toList := by
  rw [serves, ← Text.occursIn_iff, Bool.not_eq_true]

namespace Reference

/-- There is no answer exactly if no component is accepted. -/
theorem answerAmong?_eq_none_iff {r : Reference} {components : List Component} :
    r.answerAmong? components = none ↔ ∀ c ∈ components, r.accepts c = false := by
  simp [answerAmong?]

/-- **The first answer holds.** An answer among the first components is the answer among all. -/
theorem answers_of_prefix {r : Reference} {first all : List Component} (h : first <+: all)
    {i : Interaction} (hi : r.answerAmong? first = some i) : r.answerAmong? all = some i := by
  rw [answerAmong?, Option.map_eq_some_iff] at hi ⊢
  obtain ⟨c, hc, rfl⟩ := hi
  obtain ⟨rest, rfl⟩ := h
  exact ⟨c, by rw [List.find?_append, hc, Option.some_or], rfl⟩

/-- Components that answer nothing do not matter. -/
theorem answerAmong?_filter (r : Reference) (components : List Component) :
    r.answerAmong? (components.filter Component.answers) = r.answerAmong? components := by
  rw [answerAmong?, answerAmong?, List.find?_filter]
  congr 2
  funext c
  by_cases h : r.accepts c = true
  · simp [h, Component.answers_of_accepts h]
  · simp [h]

/-- The question for the controller of a route accepts the controllers that serve it. -/
theorem accepts_toController (page route : String) (c : Component) :
    (toController page route).accepts c = (c.kind == .controller && c.serves route) := by
  simp [accepts, toController, lookupRoute]

/-- The question for the controller of a route accepts the controllers whose labels show its
path. -/
theorem accepts_toController_iff {page route : String} {c : Component} :
    (toController page route).accepts c = true ↔
      c.kind = .controller ∧ ("/api/" ++ route).toList <:+: c.label.toList := by
  rw [accepts_toController, Bool.and_eq_true, beq_iff_eq, Component.serves, Text.occursIn_iff]

/-- The question for the gateway accepts every gateway. -/
theorem accepts_toGateway (page : String) (c : Component) :
    (toGateway page).accepts c = (c.kind == .gateway) := by
  simp [accepts, toGateway]

/-- The answer depends on the identifier of the component that gives it. -/
theorem answerOf_congr (r : Reference) {c d : Component} (h : c.id = d.id) :
    r.answerOf c = r.answerOf d := by
  rw [answerOf, answerOf, h]

/-- The source of an answer is the one that asked. -/
theorem source_answerOf (r : Reference) (c : Component) : (r.answerOf c).source = r.source := by
  rw [answerOf]
  split <;> rfl

/-- The target of an answer is the component that gives it. -/
theorem target_answerOf (r : Reference) (c : Component) : (r.answerOf c).target = c.id := by
  rw [answerOf]
  split <;> rfl

end Reference

namespace Model

/-- The components of a model that answer questions, in roster order. -/
def answerers (m : Model) : List Component :=
  m.components.toList.filter Component.answers

/-- **The answer** to a reference is that of the first component that it accepts. -/
theorem answer?_eq_answerAmong? (m : Model) (r : Reference) :
    m.answer? r = r.answerAmong? m.components.toList := by
  by_cases h : r.kind = .controller
  · have haccepts : r.accepts = fun c => c.kind == .controller && c.serves r.lookupRoute := by
      funext c; rw [Reference.accepts, if_pos h]
    have hanswer : r.answerOf = fun c =>
        { source := r.source, target := c.id, label := "GET /api/" ++ r.lookupRoute } := by
      funext c; rw [Reference.answerOf, if_pos h]
    rw [answer?, if_pos h, controllerOf?, ofKind, List.find?_filter, Reference.answerAmong?,
      haccepts, hanswer]
    simp only [Bool.decide_and, Bool.decide_eq_true]
  · have haccepts : r.accepts = fun c => c.kind == .gateway := by
      funext c; rw [Reference.accepts, if_neg h]
    have hanswer : r.answerOf = fun c =>
        { source := r.source, target := c.id, label := "connects to", isAsync := true } := by
      funext c; rw [Reference.answerOf, if_neg h]
    rw [answer?, if_neg h, firstOfKind?, ofKind, List.head?_filter, Reference.answerAmong?,
      haccepts, hanswer]

/-- The answers depend on the roster only. -/
theorem answer?_congr {m m' : Model} (h : m'.components = m.components) :
    m'.answer? = m.answer? := by
  funext r
  rw [answer?_eq_answerAmong?, answer?_eq_answerAmong?, h]

/-- Only the answerers of a model matter to a question. -/
theorem answer?_eq_answerers (m : Model) (r : Reference) :
    m.answer? r = r.answerAmong? m.answerers := by
  rw [answer?_eq_answerAmong?, answerers, Reference.answerAmong?_filter]

/-- An answer is given by a component of the roster that the question accepts. -/
theorem exists_of_answer?_eq_some {m : Model} {r : Reference} {i : Interaction}
    (h : m.answer? r = some i) :
    ∃ c ∈ m.components.toList, r.accepts c = true ∧ i = r.answerOf c := by
  rw [answer?_eq_answerAmong?, Reference.answerAmong?, Option.map_eq_some_iff] at h
  obtain ⟨c, hc, rfl⟩ := h
  exact ⟨c, List.mem_of_find?_eq_some hc, List.find?_some hc, rfl⟩

/-- A question has an answer if it accepts a component of the roster. -/
theorem exists_answer?_of_accepts {m : Model} {r : Reference} {c : Component}
    (hc : c ∈ m.components.toList)
    (haccepts : r.accepts c = true) : ∃ i, m.answer? r = some i := by
  rw [← Option.ne_none_iff_exists', answer?_eq_answerAmong?, ne_eq,
    Reference.answerAmong?_eq_none_iff]
  intro hnone
  rw [hnone c hc] at haccepts
  exact Bool.noConfusion haccepts

/-- Entering a component that answers nothing, in the place of none that does, changes no
answer. -/
theorem answerers_upsert {m : Model} {c : Component} (hc : c.answers = false)
    (hm : ∀ d ∈ m.components.toList, d.id = c.id → d.answers = false) :
    (m.upsert c).answerers = m.answerers :=
  Keyed.filter_insert_of_irrelevant hc hm

/-- **Questions asked one after the other** are answered by the roster as it stands, or stay
open. -/
theorem foldl_connect (rs : List Reference) (m : Model) :
    rs.foldl connect m =
      { m with
        interactions := m.interactions ++ rs.filterMap m.answer?
        pending := m.pending ++ rs.filter fun r => (m.answer? r).isNone } := by
  induction rs generalizing m with
  | nil => simp
  | cons r rest ih =>
    rw [List.foldl_cons, ih, answer?_congr (components_connect m r), connect]
    cases h : m.answer? r <;> simp [h, append, pend]

/-- **Asking again is of no use** when no open question has an answer. -/
theorem resolvePending_eq_self {m : Model} (h : ∀ r ∈ m.pending, m.answer? r = none) :
    m.resolvedCount = 0 ∧ m.resolvePending = m := by
  have hanswers : m.pending.filterMap m.answer? = [] := List.filterMap_eq_nil_iff.mpr h
  have hpending : m.pending.filter (fun r => (m.answer? r).isNone) = m.pending :=
    List.filter_eq_self.mpr fun r hr => by rw [h r hr]; rfl
  constructor
  · rw [resolvedCount, hanswers, List.length_nil]
  · rw [resolvePending, hanswers, hpending, List.append_nil]

/-! ### Settled models -/

/-- A model is **settled** if each of its open questions is a page's question that no component
answers. -/
structure Settled (m : Model) : Prop where
  asked : ∀ r ∈ m.pending,
    (∃ page route, r = .toController page route) ∨ ∃ page, r = .toGateway page
  unanswered : ∀ r ∈ m.pending, ∀ c ∈ m.components.toList, r.accepts c = false

/-- The open questions of a settled model have no answer. -/
theorem Settled.answer?_eq_none {m : Model} (h : m.Settled) {r : Reference}
    (hr : r ∈ m.pending) : m.answer? r = none := by
  rw [answer?_eq_answerAmong?, Reference.answerAmong?_eq_none_iff]
  exact h.unanswered r hr

/-- Asking again resolves nothing in a settled model. -/
theorem resolvedCount_of_settled {m : Model} (h : m.Settled) : m.resolvedCount = 0 :=
  (resolvePending_eq_self fun _ hr => h.answer?_eq_none hr).1

/-- **Asking again** leaves a settled model as it is. -/
theorem resolvePending_of_settled {m : Model} (h : m.Settled) : m.resolvePending = m :=
  (resolvePending_eq_self fun _ hr => h.answer?_eq_none hr).2

/-- A question of a page keeps a model settled. -/
theorem Settled.connect {m : Model} (h : m.Settled) {r : Reference}
    (hr : (∃ page route, r = .toController page route) ∨ ∃ page, r = .toGateway page) :
    (m.connect r).Settled := by
  rw [Model.connect]
  split
  · exact ⟨h.asked, h.unanswered⟩
  · next hnone =>
    rw [answer?_eq_answerAmong?, Reference.answerAmong?_eq_none_iff] at hnone
    refine ⟨fun s hs => ?_, fun s hs => ?_⟩ <;>
      rcases List.mem_append.mp hs with hold | hnew
    · exact h.asked s hold
    · obtain rfl := List.mem_singleton.mp hnew
      exact hr
    · exact h.unanswered s hold
    · obtain rfl := List.mem_singleton.mp hnew
      exact hnone

/-- The questions of a page keep a model settled. -/
theorem Settled.foldl_connect {m : Model} (h : m.Settled) {rs : List Reference}
    (hrs : ∀ r ∈ rs, (∃ page route, r = .toController page route) ∨ ∃ page, r = .toGateway page) :
    (rs.foldl Model.connect m).Settled := by
  induction rs generalizing m with
  | nil => exact h
  | cons r rest ih =>
    exact ih (h.connect (hrs r List.mem_cons_self)) fun s hs =>
      hrs s (List.mem_cons_of_mem r hs)

/-- A component that answers nothing keeps a model settled. -/
theorem Settled.upsert {m : Model} (h : m.Settled) {c : Component} (hc : c.answers = false) :
    (m.upsert c).Settled where
  asked := h.asked
  unanswered r hr d hd := by
    rcases Keyed.mem_insert.mp hd with rfl | ⟨hold, -⟩
    · by_contra haccepts
      rw [Bool.not_eq_false] at haccepts
      rw [Component.answers_of_accepts haccepts] at hc
      exact absurd hc (by decide)
    · exact h.unanswered r hr d hold

/-- Synthesis keeps a model settled: the actors answer nothing. -/
theorem Settled.synthesize {m : Model} (h : m.Settled) (rules : Rules) :
    (m.synthesize rules).Settled := by
  have hboth : (m.addUser.addDatabase).Settled :=
    (h.upsert (c := userActor) rfl).upsert (c := databaseActor) rfl
  rw [Model.synthesize, linkPersistence]
  split
  · exact ⟨hboth.asked, hboth.unanswered⟩
  · exact hboth

end Model

end SystemSketch
