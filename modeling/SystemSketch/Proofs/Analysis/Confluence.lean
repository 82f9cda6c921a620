import SystemSketch.Analysis
import SystemSketch.Proofs.Extraction.Identifier

/-!
# The order in which files are taken up

Server files and client files can be taken up in any order, as long as the files of each side
keep theirs. A page that comes too early finds fewer controllers and gateways, so some of its
questions stay open; asked again at the end, they find the answer that they would have found with
every server file before them. The components, the collisions, the interactions and the open
questions are then those of the analysis that begins with the server.

## Main definitions

* `Interleaving` — the orders in which two lists can be taken up.
* `Model.takeUp`, `Model.record` — a model with one more file, and with the facts of one.
* `Model.Tally` — the interactions and the open questions of a model, once its questions get
  their final answers.
* `Model.Progress` — where an interleaved run stands.

## Main results

* `Model.Tally.connect` — a question that gets a final answer, or none yet, is accounted for.
* `Model.Progress.recordServer`, `Model.Progress.recordPage` — one file of each side.
* `Model.progress_record` — a whole run.
* `Model.confluence` — the order between the two sides does not matter.
-/

namespace SystemSketch

/-! ### Interleaved lists -/

/-- An **interleaving** of two lists takes up the elements of both, those of each list in their
order. -/
inductive Interleaving {α β : Type} : List α → List β → List (α ⊕ β) → Prop
  | nil : Interleaving [] [] []
  | left {a : α} {as : List α} {bs : List β} {order : List (α ⊕ β)} :
      Interleaving as bs order → Interleaving (a :: as) bs (.inl a :: order)
  | right {b : β} {as : List α} {bs : List β} {order : List (α ⊕ β)} :
      Interleaving as bs order → Interleaving as (b :: bs) (.inr b :: order)

namespace Interleaving

variable {α β γ δ : Type} {as : List α} {bs : List β} {order : List (α ⊕ β)}

/-- All elements of the first list can be taken up before those of the second. -/
theorem append (as : List α) (bs : List β) :
    Interleaving as bs (as.map .inl ++ bs.map .inr) := by
  induction as with
  | nil =>
    induction bs with
    | nil => exact .nil
    | cons b bs ih => exact .right ih
  | cons a as ih => exact .left ih

/-- Elements are taken up in the same order after a change of each. -/
theorem map (f : α → γ) (g : β → δ) (h : Interleaving as bs order) :
    Interleaving (as.map f) (bs.map g) (order.map (Sum.map f g)) := by
  induction h with
  | nil => exact .nil
  | left _ ih => exact .left ih
  | right _ ih => exact .right ih

/-- The elements of the second side come from the second list. -/
theorem mem_of_inr_mem (h : Interleaving as bs order) {b : β} (hb : .inr b ∈ order) : b ∈ bs := by
  induction h with
  | nil => cases hb
  | left _ ih =>
    rcases List.mem_cons.mp hb with heq | hrest
    · cases heq
    · exact ih hrest
  | right _ ih =>
    rcases List.mem_cons.mp hb with heq | hrest
    · exact List.mem_cons.mpr (Or.inl (Sum.inr.inj heq))
    · exact List.mem_cons_of_mem _ (ih hrest)

end Interleaving

namespace Model

/-- Takes up a server file or a client file. -/
def takeUp (root : PageRoot) (rules : Rules) (markers : List Recognition.Marker) (m : Model) :
    SourceFile ⊕ SourceFile → Except PageError Model
  | .inl file => .ok (m.analyzeServer rules markers file)
  | .inr file => m.analyzePage root rules file

/-- Takes up the facts of a server file or of a client file. -/
def record (m : Model) : ServerFacts ⊕ PageFacts → Model
  | .inl facts => m.recordServer facts
  | .inr facts => m.recordPage facts

/-- Taking up files is recording their facts, if every page has an address. -/
theorem foldlM_takeUp {root : PageRoot} {rules : Rules} {markers : List Recognition.Marker}
    {pageOf : SourceFile → PageFacts} {order : List (SourceFile ⊕ SourceFile)}
    (h : ∀ file, .inr file ∈ order → pageFacts root rules file = .ok (pageOf file)) (m : Model) :
    order.foldlM (takeUp root rules markers) m =
      .ok ((order.map (Sum.map (serverFacts rules markers) pageOf)).foldl record m) := by
  induction order generalizing m with
  | nil => rfl
  | cons file rest ih =>
    have hrest := ih fun f hf => h f (List.mem_cons_of_mem file hf)
    rw [List.foldlM_cons]
    cases file with
    | inl file => exact hrest _
    | inr file =>
      have hpage : takeUp root rules markers m (.inr file) = .ok (m.recordPage (pageOf file)) := by
        rw [takeUp, analyzePage, h file List.mem_cons_self]
        rfl
      rw [hpage]
      exact hrest _

/-! ### What is recorded in the end -/

/-- The components that server files declare. -/
def declared (servers : List ServerFacts) : List Component :=
  servers.filterMap ServerFacts.component?

/-- The components of files, in the order in which they are taken up. -/
def entered (order : List (ServerFacts ⊕ PageFacts)) : List Component :=
  order.flatMap fun
    | .inl facts => facts.component?.toList
    | .inr facts => [facts.page]

@[simp] theorem declared_cons (facts : ServerFacts) (servers : List ServerFacts) :
    declared (facts :: servers) = facts.component?.toList ++ declared servers := by
  rw [declared, List.filterMap_cons]
  cases facts.component? <;> rfl

@[simp] theorem entered_inl (facts : ServerFacts) (order : List (ServerFacts ⊕ PageFacts)) :
    entered (.inl facts :: order) = facts.component?.toList ++ entered order := rfl

@[simp] theorem entered_inr (facts : PageFacts) (order : List (ServerFacts ⊕ PageFacts)) :
    entered (.inr facts :: order) = facts.page :: entered order := rfl

/-- The history of an interleaved run. -/
theorem Records.foldl_record {m : Model} {history : List Component} (h : m.Records history)
    (order : List (ServerFacts ⊕ PageFacts)) :
    (order.foldl record m).Records (history ++ entered order) := by
  induction order generalizing m history with
  | nil => simpa [entered] using h
  | cons facts rest ih =>
    cases facts with
    | inl facts =>
      rw [entered_inl, ← List.append_assoc]
      exact ih (h.recordServer facts)
    | inr facts =>
      rw [entered_inr, List.append_cons]
      exact ih (h.recordPage facts)

section History

variable {servers : List ServerFacts} {pages : List PageFacts}
  {order : List (ServerFacts ⊕ PageFacts)}

/-- A selection that passes over every class finds the pages in their order. -/
theorem filter_entered_of_declared (h : Interleaving servers pages order) {p : Component → Bool}
    (hp : ∀ c ∈ declared servers, p c = false) :
    (entered order).filter p = (pages.map PageFacts.page).filter p := by
  induction h with
  | nil => rfl
  | @left facts servers _ _ _ ih =>
    have hfacts : facts.component?.toList.filter p = [] :=
      List.filter_eq_nil_iff.mpr fun c hc => by simp [hp c (by simp [Option.mem_toList.mp hc])]
    rw [entered_inl, List.filter_append, hfacts, List.nil_append]
    exact ih fun c hc => hp c (by simp [hc])
  | right _ ih =>
    rw [entered_inr, List.map_cons, List.filter_cons, List.filter_cons, ih hp]

/-- A selection that passes over every page finds the classes in their order. -/
theorem filter_entered_of_pages (h : Interleaving servers pages order) {p : Component → Bool}
    (hp : ∀ facts ∈ pages, p facts.page = false) :
    (entered order).filter p = (declared servers).filter p := by
  induction h with
  | nil => rfl
  | left _ ih => rw [entered_inl, declared_cons, List.filter_append, List.filter_append, ih hp]
  | right _ ih =>
    rw [entered_inr, List.filter_cons_of_neg (by simp [hp _ List.mem_cons_self])]
    exact ih fun facts hfacts => hp facts (List.mem_cons_of_mem _ hfacts)

/-- What an identifier finds in the end does not depend on the order between the sides. -/
theorem latest?_entered (h : Interleaving servers pages order)
    (hpages : ∀ facts ∈ pages, ¬IsClassName facts.page.id)
    (hclasses : ∀ c ∈ declared servers, IsClassName c.id) (id : String) :
    latest? (entered order) id =
      latest? (declared servers ++ pages.map PageFacts.page) id := by
  rw [latest?, latest?, List.filter_append]
  by_cases hid : IsClassName id
  · have hnone : ∀ facts ∈ pages, (facts.page.id == id) = false := fun facts hfacts => by
      simpa using hid.ne (hpages facts hfacts)
    have hempty : (pages.map PageFacts.page).filter (fun c => c.id == id) = [] := by
      rw [List.filter_eq_nil_iff]
      intro c hc
      obtain ⟨facts, hfacts, rfl⟩ := List.mem_map.mp hc
      simp [hnone facts hfacts]
    rw [filter_entered_of_pages h hnone, hempty, List.append_nil]
  · have hnone : ∀ c ∈ declared servers, (c.id == id) = false := fun c hc => by
      simpa using ((hclasses c hc).ne hid).symm
    have hempty : (declared servers).filter (fun c => c.id == id) = [] := by
      rw [List.filter_eq_nil_iff]
      exact fun c hc => by simp [hnone c hc]
    rw [filter_entered_of_declared h hnone, hempty, List.nil_append]

/-- Among classes of different names and pages, only pages replace each other. -/
theorem replacementsFrom_entered (h : Interleaving servers pages order)
    (hpages : ∀ facts ∈ pages, ¬IsClassName facts.page.id)
    (hclasses : ∀ c ∈ declared servers, IsClassName c.id)
    (hnodup : ((declared servers).map Component.id).Nodup) {before before' : List Component}
    (hbefore : ∀ id, ¬IsClassName id → latest? before id = latest? before' id)
    (hnew : ∀ c ∈ declared servers, latest? before c.id = none) :
    replacementsFrom before (entered order) =
      replacementsFrom before' (pages.map PageFacts.page) := by
  induction h generalizing before before' with
  | nil => rfl
  | @left facts servers pages order _ ih =>
    rw [declared_cons] at hclasses hnodup hnew
    rw [entered_inl]
    cases hc : facts.component? with
    | none =>
      rw [hc] at hclasses hnodup hnew
      exact ih hpages hclasses hnodup hbefore hnew
    | some c =>
      rw [hc, Option.toList_some, List.singleton_append] at hclasses hnodup hnew
      obtain ⟨hfresh, hnodup⟩ := List.nodup_cons.mp hnodup
      have hcollision : collisionWith? before c = none := by
        rw [collisionWith?, hnew c List.mem_cons_self, Option.map_none]
      rw [Option.toList_some, List.singleton_append, replacementsFrom, hcollision,
        Option.toList_none, List.nil_append]
      refine ih hpages (fun d hd => hclasses d (List.mem_cons_of_mem c hd)) hnodup
        (fun id hid => ?_) fun d hd => ?_
      · rw [latest?_concat, if_neg ((hclasses c List.mem_cons_self).ne hid), hbefore id hid]
      · have hne : d.id ≠ c.id := fun e => hfresh (e ▸ List.mem_map_of_mem hd)
        rw [latest?_concat, if_neg hne, hnew d (List.mem_cons_of_mem c hd)]
  | @right facts servers pages order _ ih =>
    have hpage := hpages facts List.mem_cons_self
    rw [entered_inr, List.map_cons, replacementsFrom, replacementsFrom, collisionWith?,
      collisionWith?, hbefore _ hpage]
    refine congrArg _ (ih (fun f hf => hpages f (List.mem_cons_of_mem facts hf)) hclasses hnodup
      (fun id hid => ?_) fun c hc => ?_)
    · rw [latest?_concat, latest?_concat, hbefore id hid]
    · rw [latest?_concat, if_neg ((hclasses c hc).ne hpage).symm, hnew c hc]

end History

/-! ### What is answered in the end -/

/-- Appended parts can change places. -/
theorem perm_append_right_comm {α : Type} (as bs cs : List α) :
    (as ++ bs ++ cs).Perm (as ++ cs ++ bs) := by
  rw [List.append_assoc, List.append_assoc]
  exact List.perm_append_comm.append_left as

/-- A model **tallies** with interactions and questions if, once the questions get their final
answers, it has these interactions with the answers, and the questions that have none. -/
structure Tally (answer : Reference → Option Interaction) (m : Model)
    (interactions : List Interaction) (questions : List Reference) : Prop where
  interactions :
    (m.interactions ++ m.pending.filterMap answer).Perm (interactions ++ questions.filterMap answer)
  pending :
    (m.pending.filter fun r => (answer r).isNone).Perm (questions.filter fun r => (answer r).isNone)

section Tally

variable {answer : Reference → Option Interaction} {m : Model} {interactions : List Interaction}
  {questions : List Reference}

/-- Appended interactions are counted as they are. -/
theorem Tally.append (h : Tally answer m interactions questions) (more : List Interaction) :
    Tally answer { m with interactions := m.interactions ++ more } (interactions ++ more)
      questions where
  interactions :=
    calc (m.interactions ++ more ++ m.pending.filterMap answer).Perm
          (m.interactions ++ m.pending.filterMap answer ++ more) := perm_append_right_comm _ _ _
      _ |>.Perm (interactions ++ questions.filterMap answer ++ more) :=
          h.interactions.append_right more
      _ |>.Perm (interactions ++ more ++ questions.filterMap answer) :=
          perm_append_right_comm _ _ _
  pending := h.pending

/-- **A question is accounted for**: an answer that it gets is the final one, and an open question
gets it later. -/
theorem Tally.connect (h : Tally answer m interactions questions) {r : Reference}
    (hr : ∀ i, m.answer? r = some i → answer r = some i) :
    Tally answer (m.connect r) interactions (questions ++ [r]) := by
  rw [Model.connect]
  cases hnow : m.answer? r with
  | some i =>
    have hfinal := hr i hnow
    refine ⟨?_, by simpa [Model.append, hfinal] using h.pending⟩
    have hsum := (perm_append_right_comm m.interactions [i] (m.pending.filterMap answer)).trans
      (h.interactions.append_right [i])
    simpa [Model.append, hfinal] using hsum
  | none =>
    refine ⟨?_, ?_⟩
    · simpa [pend, ← List.append_assoc] using h.interactions.append_right ([r].filterMap answer)
    · simpa [pend] using h.pending.append_right ([r].filter fun r => (answer r).isNone)

/-- The questions of a page are accounted for one after the other. -/
theorem Tally.foldl_connect (h : Tally answer m interactions questions) {rs : List Reference}
    (hrs : ∀ r i, m.answer? r = some i → answer r = some i) :
    Tally answer (rs.foldl Model.connect m) interactions (questions ++ rs) := by
  induction rs generalizing m questions with
  | nil => simpa using h
  | cons r rest ih =>
    rw [List.append_cons]
    refine ih (h.connect (hrs r)) fun s i hs => hrs s i ?_
    rwa [answer?_eq_answerAmong?, components_connect, ← answer?_eq_answerAmong?] at hs

/-- Asking again with the final answers settles the account. -/
theorem Tally.resolvePending (h : Tally answer m interactions questions)
    (hanswer : m.answer? = answer) :
    m.resolvePending.interactions.Perm (interactions ++ questions.filterMap answer) ∧
      m.resolvePending.pending.Perm (questions.filter fun r => (answer r).isNone) := by
  subst hanswer
  exact ⟨h.interactions, h.pending⟩

end Tally

/-! ### An interleaved run -/

/-- Where an interleaved run stands that has met the classes `seen`, whose files have declared
`interactions`, and pages that have asked `questions`. -/
structure Progress (answer : Reference → Option Interaction) (m : Model) (seen : List Component)
    (interactions : List Interaction) (questions : List Reference) : Prop where
  apart : m.Apart
  /-- The answers are given by the classes, in the order in which they were met. -/
  answerers : m.answerers = seen.filter Component.answers
  /-- A class that was not met is not in the roster. -/
  unseen : ∀ id, IsClassName id → id ∉ seen.map Component.id → id ∉ m.components.keys
  tally : Tally answer m interactions questions

section Progress

variable {answer : Reference → Option Interaction} {m : Model} {seen : List Component}
  {interactions : List Interaction} {questions : List Reference}

/-- No file is taken up yet. -/
theorem progress_empty (answer : Reference → Option Interaction) :
    Progress answer empty [] [] [] where
  apart := apart_empty
  answerers := rfl
  unseen _ _ _ := List.not_mem_nil
  tally := ⟨.refl _, .refl _⟩

/-- The keys after entering a component: no others than before, except its own. -/
theorem mem_keys_upsert {m : Model} {c : Component} {id : String}
    (h : id ∈ (m.upsert c).components.keys) : id = c.id ∨ id ∈ m.components.keys := by
  rw [upsert, Keyed.keys_insert] at h
  split at h
  · exact Or.inr h
  · rcases List.mem_append.mp h with hold | hnew
    · exact Or.inr hold
    · exact Or.inl (List.mem_singleton.mp hnew)

/-- A class that was not met goes to the end of the roster. -/
theorem Progress.upsert (h : Progress answer m seen interactions questions) {c : Component}
    (hclass : IsClassName c.id) (hnew : c.id ∉ seen.map Component.id) :
    Progress answer (m.upsert c) (seen ++ [c]) interactions questions where
  apart := h.apart.upsert (Or.inr hclass)
  answerers := by
    have hlist : (m.upsert c).components.toList = m.components.toList ++ [c] :=
      Keyed.toList_insert_of_notMem (h.unseen c.id hclass hnew)
    rw [Model.answerers, hlist, List.filter_append, List.filter_append, ← h.answerers,
      Model.answerers]
  unseen id hid hunseen hmem := by
    rw [List.map_append, List.mem_append, not_or] at hunseen
    rcases mem_keys_upsert hmem with rfl | hold
    · exact hunseen.2 List.mem_cons_self
    · exact h.unseen id hid hunseen.1 hold
  tally := ⟨h.tally.interactions, h.tally.pending⟩

/-- **A server file** adds its class and its interactions. -/
theorem Progress.recordServer (h : Progress answer m seen interactions questions)
    {facts : ServerFacts}
    (hfacts : ∀ c ∈ facts.component?, IsClassName c.id ∧ c.id ∉ seen.map Component.id) :
    Progress answer (m.recordServer facts) (seen ++ facts.component?.toList)
      (interactions ++ facts.interactions) questions := by
  have hany : Progress answer (m.upsertAny facts.component?) (seen ++ facts.component?.toList)
      interactions questions := by
    cases hc : facts.component? with
    | none => simpa [upsertAny] using h
    | some c => exact h.upsert (hfacts c hc).1 (hfacts c hc).2
  rw [Model.recordServer, foldl_append]
  exact ⟨hany.apart, hany.answerers, hany.unseen, hany.tally.append facts.interactions⟩

/-- **A client file** adds its questions. -/
theorem Progress.recordPage (h : Progress answer m seen interactions questions)
    {facts : PageFacts} (hkind : facts.page.kind = .clientPage)
    (hid : ¬IsClassName facts.page.id)
    (hfinal : ∀ r i, r.answerAmong? seen = some i → answer r = some i) :
    Progress answer (m.recordPage facts) seen interactions (questions ++ facts.references) where
  apart := h.apart.recordPage hkind
  answerers := by rw [h.apart.answerers_recordPage hkind hid, h.answerers]
  unseen id hclass hunseen hmem := by
    rw [Model.recordPage, components_foldl_connect] at hmem
    rcases mem_keys_upsert hmem with rfl | hold
    · exact hid hclass
    · exact h.unseen id hclass hunseen hold
  tally := by
    have hpage : Tally answer (m.upsert facts.page) interactions questions :=
      ⟨h.tally.interactions, h.tally.pending⟩
    refine hpage.foldl_connect fun r i hi => hfinal r i ?_
    rwa [answer?_eq_answerers, h.apart.answerers_upsert_page hkind hid, h.answerers,
      Reference.answerAmong?_filter] at hi

/-- **A whole run** adds the classes, the interactions and the questions of all files, if every
answer that it gets on the way is a final one. -/
theorem progress_record {servers : List ServerFacts} {pages : List PageFacts}
    {order : List (ServerFacts ⊕ PageFacts)} (h : Interleaving servers pages order)
    (hm : Progress answer m seen interactions questions)
    (hpages : ∀ facts ∈ pages, facts.page.kind = .clientPage ∧ ¬IsClassName facts.page.id)
    (hclasses : ∀ c ∈ declared servers, IsClassName c.id)
    (hnodup : ((seen ++ declared servers).map Component.id).Nodup)
    (hfinal : ∀ first, first <+: seen ++ declared servers →
      ∀ r i, r.answerAmong? first = some i → answer r = some i) :
    Progress answer (order.foldl record m) (seen ++ declared servers)
      (interactions ++ servers.flatMap ServerFacts.interactions)
      (questions ++ pages.flatMap PageFacts.references) := by
  induction h generalizing m seen interactions questions with
  | nil => simpa [declared] using hm
  | @left facts servers pages order _ ih =>
    rw [declared_cons, ← List.append_assoc] at hnodup hfinal ⊢
    rw [List.flatMap_cons, ← List.append_assoc]
    refine ih (hm.recordServer fun c hc => ⟨hclasses c ?_, ?_⟩) hpages
      (fun c hc => hclasses c (by simp [hc])) hnodup hfinal
    · simp [Option.mem_def.mp hc]
    · rw [Option.mem_def.mp hc, Option.toList_some, List.map_append, List.map_append] at hnodup
      have hdisjoint := List.disjoint_of_nodup_append (List.nodup_append.mp hnodup).1
      exact fun hmem => hdisjoint hmem (by simp)
  | @right facts servers pages order _ ih =>
    rw [List.flatMap_cons, ← List.append_assoc]
    obtain ⟨hkind, hid⟩ := hpages facts List.mem_cons_self
    refine ih (hm.recordPage hkind hid (hfinal seen (List.prefix_append _ _)))
      (fun f hf => hpages f (List.mem_cons_of_mem facts hf)) hclasses hnodup hfinal

end Progress

/-! ### Confluence -/

section Confluence

variable {servers : List ServerFacts} {pages : List PageFacts}
  {order order' : List (ServerFacts ⊕ PageFacts)}

/-- Whether facts can come from files of which no two declare a class of the same name. -/
structure Sources (servers : List ServerFacts) (pages : List PageFacts) : Prop where
  isClass : ∀ c ∈ declared servers, IsClassName c.id
  nodup : ((declared servers).map Component.id).Nodup
  isPage : ∀ facts ∈ pages, facts.page.kind = .clientPage ∧ ¬IsClassName facts.page.id
  asked : ∀ facts ∈ pages, ∀ r ∈ facts.references,
    (∃ page route, r = .toController page route) ∨ ∃ page, r = .toGateway page

/-- The final answers are those among all classes, and an interleaved run ends with them. -/
theorem progress_of_interleaving (hsources : Sources servers pages)
    (h : Interleaving servers pages order) :
    Progress (fun r => r.answerAmong? (declared servers)) (order.foldl record empty)
      (declared servers) (servers.flatMap ServerFacts.interactions)
      (pages.flatMap PageFacts.references) := by
  have hrun := progress_record h (progress_empty fun r => r.answerAmong? (declared servers))
    hsources.isPage hsources.isClass (by simpa using hsources.nodup)
    fun first hfirst r i hi => r.answers_of_prefix (by simpa using hfirst) hi
  simpa using hrun

/-- After an interleaved run the model gives the final answers. -/
theorem Progress.answer?_eq {answer : Reference → Option Interaction} {m : Model}
    {seen : List Component} {interactions : List Interaction} {questions : List Reference}
    (h : Progress answer m seen interactions questions) :
    m.answer? = fun r => r.answerAmong? seen := by
  funext r
  rw [answer?_eq_answerers, h.answerers, Reference.answerAmong?_filter]

/-- The roster does not depend on the order between the sides, except for the place of each
component. -/
theorem get?_foldl_record (hsources : Sources servers pages)
    (h : Interleaving servers pages order) (h' : Interleaving servers pages order') (id : String) :
    (order.foldl record empty).get? id = (order'.foldl record empty).get? id := by
  have hpages := fun facts hfacts => (hsources.isPage facts hfacts).2
  rw [(records_empty.foldl_record order).get?_eq, (records_empty.foldl_record order').get?_eq,
    List.nil_append, List.nil_append, latest?_entered h hpages hsources.isClass,
    latest?_entered h' hpages hsources.isClass]

/-- The collisions do not depend on the order between the sides. -/
theorem collisions_foldl_record (hsources : Sources servers pages)
    (h : Interleaving servers pages order) (h' : Interleaving servers pages order') :
    (order.foldl record empty).collisions = (order'.foldl record empty).collisions := by
  have hpages := fun facts hfacts => (hsources.isPage facts hfacts).2
  have hrun : ∀ {o : List (ServerFacts ⊕ PageFacts)}, Interleaving servers pages o →
      (o.foldl record empty).collisions = replacements (pages.map PageFacts.page) := fun ho => by
    rw [(records_empty.foldl_record _).collisions_eq, List.nil_append]
    exact replacementsFrom_entered ho hpages hsources.isClass hsources.nodup (fun _ _ => rfl)
      fun _ _ => rfl
  rw [hrun h, hrun h']

/-- The run that begins with the server leaves a settled model. -/
theorem settled_server_first (hsources : Sources servers pages) :
    ((servers.map Sum.inl ++ pages.map Sum.inr).foldl record empty).Settled := by
  have hservers : ∀ (fs : List ServerFacts) (m : Model), m.pending = [] →
      ((fs.map Sum.inl).foldl record m).pending = [] := by
    intro fs
    induction fs with
    | nil => exact fun m hm => hm
    | cons facts rest ih =>
      refine fun m hm => ih _ ?_
      rw [record, recordServer, foldl_append]
      cases facts.component? <;> exact hm
  have hpages : ∀ (fs : List PageFacts) (m : Model), m.Settled → (∀ f ∈ fs, f ∈ pages) →
      ((fs.map Sum.inr).foldl record m).Settled := by
    intro fs
    induction fs with
    | nil => exact fun m hm _ => hm
    | cons facts rest ih =>
      intro m hm hfs
      have hfacts := hfs facts List.mem_cons_self
      exact ih _ (hm.recordPage (hsources.isPage facts hfacts).1 (hsources.asked facts hfacts))
        fun f hf => hfs f (List.mem_cons_of_mem facts hf)
  rw [List.foldl_append]
  refine hpages pages _ ⟨fun r hr => ?_, fun r hr => ?_⟩ fun _ hf => hf <;>
    exact absurd (hservers servers empty rfl ▸ hr : r ∈ []) List.not_mem_nil

end Confluence

/-- The facts of files whose classes have different names. -/
theorem sources_of_files {root : PageRoot} {rules : Rules} {markers : List Recognition.Marker}
    {pageOf : SourceFile → PageFacts} {serverFiles clientFiles : List SourceFile}
    (hpages : ∀ file ∈ clientFiles, pageFacts root rules file = .ok (pageOf file))
    (hnames : (serverFiles.filterMap fun file =>
      (serverFacts rules markers file).component?.map Component.id).Nodup) :
    Sources (serverFiles.map (serverFacts rules markers)) (clientFiles.map pageOf) where
  isClass c hc := by
    rw [declared, List.filterMap_map, List.mem_filterMap] at hc
    obtain ⟨file, -, hfile⟩ := hc
    exact isClassName_of_serverFacts hfile
  nodup := by
    rw [declared, List.filterMap_map, List.map_filterMap]
    exact hnames
  isPage facts hfacts := by
    obtain ⟨file, hfile, rfl⟩ := List.mem_map.mp hfacts
    obtain ⟨address, -, hpage, -⟩ := pageFacts_eq_ok (hpages file hfile)
    rw [hpage]
    exact ⟨rfl, not_isClassName_pageId address⟩
  asked facts hfacts r hr := by
    obtain ⟨file, hfile, rfl⟩ := List.mem_map.mp hfacts
    obtain ⟨address, -, -, hreferences⟩ := pageFacts_eq_ok (hpages file hfile)
    rw [hreferences] at hr
    exact asked_of_mem_pageReferences hr

/-- **Confluence.** Take server files of which no two declare a class of the same name, and client
files with paths. Taking them up in any order that keeps the order of each side, and then asking
the open questions again, gives the same component for every identifier, the same remarks, the
same interactions and the same open questions, each as often, as taking up the server files
first; and after these no question needs to be asked again. -/
theorem confluence (root : PageRoot) (rules : Rules) (markers : List Recognition.Marker)
    {serverFiles clientFiles : List SourceFile} {order : List (SourceFile ⊕ SourceFile)}
    (horder : Interleaving serverFiles clientFiles order)
    (hpaths : ∀ file ∈ clientFiles, file.path ≠ "")
    (hnames : (serverFiles.filterMap fun file =>
      (serverFacts rules markers file).component?.map Component.id).Nodup) :
    ∃ m serverFirst,
      order.foldlM (takeUp root rules markers) empty = .ok m ∧
      (serverFiles.map Sum.inl ++ clientFiles.map Sum.inr).foldlM (takeUp root rules markers)
        empty = .ok serverFirst ∧
      (∀ id, m.resolvePending.get? id = serverFirst.get? id) ∧
      m.resolvePending.diagnostics = serverFirst.diagnostics ∧
      m.resolvePending.interactions.Perm serverFirst.interactions ∧
      m.resolvePending.pending.Perm serverFirst.pending ∧
      serverFirst.resolvePending = serverFirst := by
  obtain ⟨pageOf, hpageOf⟩ : ∃ pageOf : SourceFile → PageFacts,
      ∀ file ∈ clientFiles, pageFacts root rules file = .ok (pageOf file) := by
    have : Nonempty PageFacts := ⟨⟨⟨"", .clientPage, "", ""⟩, []⟩⟩
    choose! pageOf hpageOf using fun file (hfile : file ∈ clientFiles) =>
      exists_pageFacts root rules (hpaths file hfile)
    exact ⟨pageOf, hpageOf⟩
  have hsources := sources_of_files hpageOf hnames
  have hfirst := Interleaving.append serverFiles clientFiles
  have hfacts := horder.map (serverFacts rules markers) pageOf
  have hfacts' := Interleaving.append (serverFiles.map (serverFacts rules markers))
    (clientFiles.map pageOf)
  have hfirstMap : (serverFiles.map Sum.inl ++ clientFiles.map Sum.inr).map
      (Sum.map (serverFacts rules markers) pageOf) =
      (serverFiles.map (serverFacts rules markers)).map Sum.inl ++
        (clientFiles.map pageOf).map Sum.inr := by
    rw [List.map_append, List.map_map, List.map_map, List.map_map, List.map_map]
    rfl
  have hsettled := resolvePending_of_settled (settled_server_first hsources)
  have hprogress := progress_of_interleaving hsources hfacts
  have hprogress' := progress_of_interleaving hsources hfacts'
  obtain ⟨hinteractions, hpending⟩ := hprogress.tally.resolvePending hprogress.answer?_eq
  obtain ⟨hinteractions', hpending'⟩ := hprogress'.tally.resolvePending hprogress'.answer?_eq
  rw [hsettled] at hinteractions' hpending'
  refine ⟨_, _, foldlM_takeUp (fun file hfile => hpageOf file (horder.mem_of_inr_mem hfile)) _,
    (foldlM_takeUp (fun file hfile => hpageOf file (hfirst.mem_of_inr_mem hfile)) _).trans
      (by rw [hfirstMap]),
    get?_foldl_record hsources hfacts hfacts', ?_, hinteractions.trans hinteractions'.symm,
    hpending.trans hpending'.symm, hsettled⟩
  exact congrArg (List.map Collision.diagnostic) (collisions_foldl_record hsources hfacts hfacts')

/-- A page that is taken up before the controller and the gateway that it asks for. -/
theorem confluence_page_first :
    let orders : SourceFile :=
      ⟨"orders.controller.ts", "@Controller('orders')\nexport class OrdersController {}"⟩
    let events : SourceFile :=
      ⟨"events.gateway.ts", "@WebSocketGateway()\nexport class EventsGateway {}"⟩
    let dashboard : SourceFile :=
      ⟨"client/app/dashboard/page.tsx", "fetch(`$\x7bapiUrl\x7d/api/orders`); useSocket();"⟩
    let run := takeUp ⟨["work", "project"], "client/app"⟩ {} Recognition.markers
    ∃ m serverFirst,
      [.inl orders, .inr dashboard, .inl events].foldlM run empty = .ok m ∧
      [.inl orders, .inl events, .inr dashboard].foldlM run empty = .ok serverFirst ∧
      (∀ id, m.resolvePending.get? id = serverFirst.get? id) ∧
      m.resolvePending.diagnostics = serverFirst.diagnostics ∧
      m.resolvePending.interactions.Perm serverFirst.interactions ∧
      m.resolvePending.pending.Perm serverFirst.pending ∧
      serverFirst.resolvePending = serverFirst := by
  intro orders events dashboard run
  have hnames : ([orders, events].filterMap fun file =>
      (serverFacts {} Recognition.markers file).component?.map Component.id) =
      ["OrdersController", "EventsGateway"] := by decide +kernel
  exact confluence ⟨["work", "project"], "client/app"⟩ {} Recognition.markers
    (.left (.right (.left .nil))) (by simp [dashboard]) (by rw [hnames]; decide)

end Model

end SystemSketch
