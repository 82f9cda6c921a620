import Mathlib.Data.List.Forall2
import SystemSketch.Proofs.Model.Answer

/-!
# Asking the open questions again

A pass asks the open questions of a model one after the other, each of them in the model that holds
the answers to those before it. Answers are found in the roster, which no answer touches. So every
question gets the answer that the model before the pass would give, none is lost or answered twice,
and the questions that stay open have no answer after the pass either.

## Main definitions

* `Model.lookup?` — the component that a reference finds.
* `Model.Pass` — where a pass stands; `Model.Pass.ask` asks one more question.
* `Model.pass` — the pass over all open questions.

## Main results

* `Model.Pass.Asked.ask`, `Model.asked_pass` — what a pass has done after one question, and at its
  end.
* `Model.resolvePending_eq_pass` — asking all questions at once comes to the same.
* `Model.resolvePending_conserves` — what a pass leaves, part by part.
-/

namespace SystemSketch.Model

/-! ### What a reference finds -/

/-- The component that a reference finds: the first controller that serves its route, or the first
gateway. -/
def lookup? (m : Model) (r : Reference) : Option Component :=
  if r.kind = .controller then m.controllerOf? r.lookupRoute else m.firstOfKind? .gateway

/-- The answer to a reference is that of the component that it finds. -/
theorem answer?_eq_map_lookup? (m : Model) (r : Reference) :
    m.answer? r = (m.lookup? r).map r.answerOf := by
  by_cases h : r.kind = .controller
  · have hanswer : r.answerOf = fun c =>
        { source := r.source, target := c.id, label := "GET /api/" ++ r.lookupRoute } := by
      funext c
      rw [Reference.answerOf, if_pos h]
    rw [answer?, lookup?, if_pos h, if_pos h, hanswer]
  · have hanswer : r.answerOf = fun c =>
        { source := r.source, target := c.id, label := "connects to", isAsync := true } := by
      funext c
      rw [Reference.answerOf, if_neg h]
    rw [answer?, lookup?, if_neg h, if_neg h, hanswer]

/-- A reference has an answer exactly if it finds a component. -/
theorem isNone_answer? (m : Model) (r : Reference) :
    (m.answer? r).isNone = (m.lookup? r).isNone := by
  rw [answer?_eq_map_lookup?, Option.isNone_map]

/-- **The answers to several references**: one for each that finds a component, in their order, with
its source and with the component that it finds. -/
theorem forall₂_answers (m : Model) (rs : List Reference) :
    List.Forall₂ (fun r i => i.source = r.source ∧ ∃ c, m.lookup? r = some c ∧ i.target = c.id)
      (rs.filter fun r => (m.lookup? r).isSome) (rs.filterMap m.answer?) := by
  induction rs with
  | nil => exact .nil
  | cons r rest ih =>
    cases hfound : m.lookup? r with
    | none =>
      have hanswer : m.answer? r = none := by
        rw [answer?_eq_map_lookup?, hfound, Option.map_none]
      rw [List.filterMap_cons_none hanswer, List.filter_cons_of_neg (by simp [hfound])]
      exact ih
    | some c =>
      have hanswer : m.answer? r = some (r.answerOf c) := by
        rw [answer?_eq_map_lookup?, hfound, Option.map_some]
      rw [List.filterMap_cons_some hanswer, List.filter_cons_of_pos (by simp [hfound])]
      exact .cons ⟨r.source_answerOf c, c, hfound, r.target_answerOf c⟩ ih

/-! ### One question after the other -/

/-- Where a **pass** over open questions stands. -/
structure Pass where
  /-- The model with the answers that were found so far. -/
  model : Model
  /-- The questions that found no answer. -/
  unanswered : List Reference := []
  /-- The number of questions that found one. -/
  resolved : Nat := 0

/-- A pass after one more question, which is asked in the model as it stands. -/
def Pass.ask (p : Pass) (r : Reference) : Pass :=
  match p.model.answer? r with
  | some i => { p with model := p.model.append i, resolved := p.resolved + 1 }
  | none => { p with unanswered := p.unanswered ++ [r] }

/-- The pass over the open questions of a model, in order. -/
def pass (m : Model) : Pass :=
  m.pending.foldl Pass.ask { model := m }

/-- What a pass through the model `m` has done when it has **asked** these questions: they have the
answers that `m` gives. -/
structure Pass.Asked (m : Model) (asked : List Reference) (p : Pass) : Prop where
  model_eq : p.model = { m with interactions := m.interactions ++ asked.filterMap m.answer? }
  unanswered_eq : p.unanswered = asked.filter fun r => (m.answer? r).isNone
  resolved_eq : p.resolved = (asked.filterMap m.answer?).length

/-- **One more question** is answered as in the model before the pass: the answers so far have not
touched the roster. -/
theorem Pass.Asked.ask {m : Model} {asked : List Reference} {p : Pass} (h : Asked m asked p)
    (r : Reference) : Asked m (asked ++ [r]) (p.ask r) := by
  obtain ⟨hmodel, hunanswered, hresolved⟩ := h
  have hsame : p.model.answer? = m.answer? := answer?_congr (by rw [hmodel])
  rw [Pass.ask, hsame]
  cases hanswer : m.answer? r with
  | some i =>
    refine ⟨?_, ?_, ?_⟩
    · simp [hmodel, append, hanswer]
    · simp [hunanswered, hanswer]
    · simp [hresolved, hanswer]
  | none =>
    refine ⟨?_, ?_, ?_⟩
    · simp [hmodel, hanswer]
    · simp [hunanswered, hanswer]
    · simp [hresolved, hanswer]

/-- Several questions are answered one after the other. -/
theorem Pass.Asked.foldl {m : Model} {asked : List Reference} {p : Pass} (h : Asked m asked p)
    (rs : List Reference) : Asked m (asked ++ rs) (rs.foldl Pass.ask p) := by
  induction rs generalizing asked p with
  | nil =>
    rw [List.append_nil]
    exact h
  | cons r rest ih =>
    rw [List.append_cons]
    exact ih (h.ask r)

/-- **A whole pass** has asked all open questions. -/
theorem asked_pass (m : Model) : Pass.Asked m m.pending m.pass := by
  have hstart : Pass.Asked m [] { model := m } := ⟨by simp, rfl, rfl⟩
  exact hstart.foldl m.pending

/-- **Asking all questions at once** comes to the same as asking one after the other. -/
theorem resolvePending_eq_pass (m : Model) :
    m.resolvePending = { m.pass.model with pending := m.pass.unanswered } ∧
      m.resolvedCount = m.pass.resolved := by
  obtain ⟨hmodel, hunanswered, hresolved⟩ := asked_pass m
  constructor
  · rw [hmodel, hunanswered]
    rfl
  · rw [hresolved]
    rfl

/-! ### What a pass leaves -/

/-- Every open question is answered or stays open. -/
theorem resolvedCount_add_length (m : Model) :
    m.resolvedCount + m.resolvePending.pending.length = m.pending.length := by
  have hsplit := List.length_eq_countP_add_countP (fun r => (m.answer? r).isSome) (l := m.pending)
  have hopen : m.resolvePending.pending.length =
      m.pending.countP fun r => decide ¬(m.answer? r).isSome = true := by
    rw [List.countP_eq_length_filter]
    refine congrArg List.length (List.filter_congr fun r _ => ?_)
    cases m.answer? r <;> rfl
  rw [resolvedCount, List.length_filterMap_eq_countP, hopen, hsplit]

/-- **A pass loses nothing and repeats nothing.** Asking the open questions of a model one after the
other answers those that find a component of the roster, and leaves the others open, in order; so
the number of answers and that of the questions left make up the number of questions before. One
interaction for each answered question is appended to the log, in order, from its source to the
component that it finds, and the roster and the remarks stay as they are. A second pass answers
nothing and changes nothing. -/
theorem resolvePending_conserves (m : Model) :
    let m' := m.resolvePending
    (m' = { m.pass.model with pending := m.pass.unanswered } ∧
      m.resolvedCount = m.pass.resolved) ∧
    m'.pending = m.pending.filter (fun r => (m.lookup? r).isNone) ∧
    m.resolvedCount + m'.pending.length = m.pending.length ∧
    (∃ answers, m'.interactions = m.interactions ++ answers ∧ answers.length = m.resolvedCount ∧
      List.Forall₂ (fun r i => i.source = r.source ∧ ∃ c, m.lookup? r = some c ∧ i.target = c.id)
        (m.pending.filter fun r => (m.lookup? r).isSome) answers) ∧
    m'.components = m.components ∧ m'.diagnostics = m.diagnostics ∧
    m'.resolvedCount = 0 ∧ m'.resolvePending = m' := by
  intro m'
  have hopen : m'.pending = m.pending.filter fun r => (m.lookup? r).isNone := by
    rw [← funext (isNone_answer? m)]
    rfl
  have hnone : ∀ r ∈ m'.pending, m'.answer? r = none := by
    intro r hr
    have hsame : m'.answer? = m.answer? := answer?_congr rfl
    rw [hsame]
    exact Option.isNone_iff_eq_none.mp (List.mem_filter.mp hr).2
  exact ⟨resolvePending_eq_pass m, hopen, resolvedCount_add_length m,
    ⟨_, rfl, rfl, forall₂_answers m m.pending⟩, rfl, rfl, resolvePending_eq_self hnone⟩

end SystemSketch.Model
