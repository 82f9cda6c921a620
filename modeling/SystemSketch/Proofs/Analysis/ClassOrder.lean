import SystemSketch.Proofs.Analysis.Facts

/-!
# The order of the server files

What a server file says does not depend on the other files, so the order of the server files
matters neither to the identifiers nor to the interactions of the classes. It can matter to the
answers: a question is answered by the first component that it accepts, and of several
declarations of a class the last one holds. The order does not matter to a question that is
**decided**, that is, one that accepts either no declared component, or all declarations of one
class and no others; and for every other question there are two orders with different answers.

## Main definitions

* `Reference.Decided` — the questions whose answer does not depend on the order.
* `Interaction.isAnswer` — the interactions that answer a question.

## Main results

* `Reference.Decided.answer?_eq` — the answer to a decided question.
* `Model.Records.head_of_leading` — which declaration stands at the head of the roster.
* `Project.exists_answers_ne` — a question that is not decided has different answers.
* `analyze_perm_serverFiles` — what does not depend on the order of the server files, and exactly
  when all interactions do not.
-/

namespace SystemSketch

/-! ### Decided questions -/

namespace Reference

/-- A question is **decided** by declared components if it accepts none of them, or all that bear
one identifier and no others. -/
def Decided (r : Reference) (declared : List Component) : Prop :=
  ∀ c ∈ declared, r.accepts c = true → ∀ d ∈ declared, r.accepts d = true ↔ d.id = c.id

instance (r : Reference) (declared : List Component) : Decidable (r.Decided declared) :=
  inferInstanceAs (Decidable (∀ c ∈ declared, r.accepts c = true →
    ∀ d ∈ declared, r.accepts d = true ↔ d.id = c.id))

/-- The order of the declarations does not matter to what decides a question. -/
theorem decided_of_perm {r : Reference} {declared declared' : List Component}
    (hperm : declared'.Perm declared) (h : r.Decided declared) : r.Decided declared' :=
  fun c hc haccepts d hd => h c (hperm.subset hc) haccepts d (hperm.subset hd)

/-- Different questions of pages never have the same answer. -/
theorem eq_of_answerOf_eq {r s : Reference} {c d : Component}
    (hr : (∃ page route, r = .toController page route) ∨ ∃ page, r = .toGateway page)
    (hs : (∃ page route, s = .toController page route) ∨ ∃ page, s = .toGateway page)
    (h : r.answerOf c = s.answerOf d) : r = s := by
  rcases hr with ⟨page, route, rfl⟩ | ⟨page, rfl⟩ <;>
    rcases hs with ⟨page', route', rfl⟩ | ⟨page', rfl⟩ <;>
    simp_all [answerOf, toController, toGateway, lookupRoute]

end Reference

/-- **The answer to a decided question** is given by any declaration that the question accepts. -/
theorem Reference.Decided.answer?_eq {m : Model} {history : List Component} {r : Reference}
    (hm : m.Records history) (hr : r.Decided history) :
    m.answer? r = (history.find? r.accepts).map r.answerOf := by
  cases hfind : history.find? r.accepts with
  | none =>
    have hnone := List.find?_eq_none.mp hfind
    cases hanswer : m.answer? r with
    | none => rfl
    | some i =>
      obtain ⟨c, hc, haccepts, -⟩ := Model.exists_of_answer?_eq_some hanswer
      exact absurd haccepts (hnone c (hm.mem_history hc))
  | some c =>
    have hc := List.mem_of_find?_eq_some hfind
    have haccepts := List.find?_some hfind
    -- Whichever declaration of the class holds in the end, the question accepts it.
    obtain ⟨d, hd⟩ : ∃ d, m.get? c.id = some d := by
      rw [← Option.ne_none_iff_exists', hm.get?_eq, ne_eq, latest?_eq_none_iff]
      exact fun hnotin => hnotin (List.mem_map_of_mem hc)
    obtain ⟨hdmem, hdid⟩ := Keyed.get?_eq_some_iff.mp hd
    have hdaccepts := (hr c hc haccepts d (hm.mem_history hdmem)).mpr hdid
    obtain ⟨i, hi⟩ := Model.exists_answer?_of_accepts hdmem hdaccepts
    obtain ⟨e, he, heaccepts, rfl⟩ := Model.exists_of_answer?_eq_some hi
    have heid := (hr c hc haccepts e (hm.mem_history he)).mp heaccepts
    rw [hi, Option.map_some, r.answerOf_congr heid]

/-- Histories of the same components give a decided question the same answer. -/
theorem Reference.Decided.answer?_eq_of_perm {m m' : Model} {history history' : List Component}
    {r : Reference} (hm : m.Records history) (hm' : m'.Records history')
    (hperm : history'.Perm history) (hr : r.Decided history) : m'.answer? r = m.answer? r := by
  have hr' : r.Decided history' := Reference.decided_of_perm hperm hr
  rw [hr.answer?_eq hm, hr'.answer?_eq hm']
  cases hfind : history.find? r.accepts with
  | none =>
    have hnone : history'.find? r.accepts = none :=
      List.find?_eq_none.mpr fun c hc => List.find?_eq_none.mp hfind c (hperm.subset hc)
    rw [hnone]
  | some c =>
    have hc := List.mem_of_find?_eq_some hfind
    have haccepts := List.find?_some hfind
    obtain ⟨d, hd⟩ : ∃ d, history'.find? r.accepts = some d := by
      rw [← Option.isSome_iff_exists, List.find?_isSome]
      exact ⟨c, hperm.symm.subset hc, haccepts⟩
    have hdmem := hperm.subset (List.mem_of_find?_eq_some hd)
    have hid := (hr c hc haccepts d hdmem).mp (List.find?_some hd)
    rw [hd, Option.map_some, Option.map_some, r.answerOf_congr hid]

/-! ### Questions that are not decided -/

namespace Model

variable {m : Model} {r : Reference}

/-- A declaration stands at the head of the roster if only declarations of its own class were
entered before it, and only other classes after it. -/
theorem Records.head_of_leading {same others : List Component} {c : Component}
    (hm : m.Records (same ++ c :: others)) (hsame : ∀ d ∈ same, d.id = c.id)
    (hothers : ∀ d ∈ others, d.id ≠ c.id) : m.components.toList.head? = some c := by
  have hlatest : m.get? c.id = some c := by
    have hnone : others.filter (fun d => d.id == c.id) = [] := by
      rw [List.filter_eq_nil_iff]
      intro d hd
      simpa using hothers d hd
    rw [hm.get?_eq, latest?, List.filter_append, List.filter_cons_of_pos (by simp), hnone]
    simp
  have hfirst : m.components.keys.head? = some c.id := by
    rw [hm.keys_eq]
    cases same with
    | nil => simp [List.eraseDups_cons]
    | cons d rest => simp [List.eraseDups_cons, hsame d List.mem_cons_self]
  rw [Keyed.keys, List.head?_map, Option.map_eq_some_iff] at hfirst
  obtain ⟨d, hhead, hid⟩ := hfirst
  have hd : m.get? c.id = some d :=
    Keyed.get?_eq_some_iff.mpr ⟨List.mem_of_mem_head? hhead, hid⟩
  rw [hlatest] at hd
  rw [hhead, Option.some.inj hd]

/-- The head of a roster answers the questions that accept it. -/
theorem answer?_of_head {c : Component} (h : m.components.toList.head? = some c)
    (haccepts : r.accepts c = true) : m.answer? r = some (r.answerOf c) := by
  obtain ⟨rest, hlist⟩ : ∃ rest, m.components.toList = c :: rest := by
    rw [List.head?_eq_some_iff] at h
    exact h
  rw [answer?_eq_answerAmong?, Reference.answerAmong?, hlist, List.find?_cons_of_pos haccepts,
    Option.map_some]

end Model

/-- Whether an interaction answers a question of a page: neither a class nor the persistence
service has interactions with such a label. -/
def Interaction.isAnswer (i : Interaction) : Bool :=
  !(["injects", "uses", "queries"].contains i.label)

namespace Project

variable {p : Project} {files : List SourceFile}

/-! ### Classes in another order -/

/-- What the server files say changes its order with the files. -/
theorem perm_servers (h : files.Perm p.serverFiles) :
    ({ p with serverFiles := files } : Project).servers.Perm p.servers :=
  h.map _

/-- The declarations change their order with the files. -/
theorem perm_declarations (h : files.Perm p.serverFiles) :
    ({ p with serverFiles := files } : Project).declarations.Perm p.declarations :=
  (perm_servers h).filterMap _

/-- The file of a declaration can be taken out of the server files. -/
theorem exists_perm_of_mem_declarations {c : Component} (h : c ∈ p.declarations) :
    ∃ file rest, (serverFacts p.rules Recognition.markers file).component? = some c ∧
      (file :: rest).Perm p.serverFiles := by
  obtain ⟨file, hfile, hc⟩ := exists_of_mem_declarations h
  exact ⟨file, p.serverFiles.erase file, hc, (List.perm_cons_erase hfile).symm⟩

/-- The declarations of files in two parts. -/
theorem declarations_append (p : Project) (before after : List SourceFile) :
    ({ p with serverFiles := before ++ after } : Project).declarations =
      ({ p with serverFiles := before } : Project).declarations ++
        ({ p with serverFiles := after } : Project).declarations := by
  simp [declarations, servers, Model.declared]

/-- The declarations of a file and those of other files. -/
theorem declarations_cons (p : Project) {file : SourceFile} {c : Component}
    (h : (serverFacts p.rules Recognition.markers file).component? = some c)
    (rest : List SourceFile) :
    ({ p with serverFiles := file :: rest } : Project).declarations =
      c :: ({ p with serverFiles := rest } : Project).declarations := by
  simp [declarations, servers, Model.declared, h]

/-- **Any accepted declaration can answer**: its class is read first, and its file as the last one
of the class. -/
theorem exists_order_of_accepts {c : Component} (hc : c ∈ p.declarations) {r : Reference}
    (haccepts : r.accepts c = true) :
    ∃ files, files.Perm p.serverFiles ∧
      ({ p with serverFiles := files } : Project).afterServer.answer? r =
        some (r.answerOf c) := by
  obtain ⟨file, rest, hfile, hperm⟩ := exists_perm_of_mem_declarations hc
  let declares (f : SourceFile) : Bool :=
    (serverFacts p.rules Recognition.markers f).component?.any (·.id == c.id)
  have hid : ∀ {fs : List SourceFile} {d : Component},
      d ∈ ({ p with serverFiles := fs } : Project).declarations →
        ∃ f ∈ fs, declares f = (d.id == c.id) := by
    intro fs d hd
    obtain ⟨f, hf, hd⟩ := exists_of_mem_declarations hd
    have hd : (serverFacts p.rules Recognition.markers f).component? = some d := hd
    exact ⟨f, hf, by simp [declares, hd]⟩
  refine ⟨rest.filter declares ++ file :: rest.filter fun f => !declares f, ?_, ?_⟩
  · calc (rest.filter declares ++ file :: rest.filter fun f => !declares f).Perm
          (file :: (rest.filter declares ++ rest.filter fun f => !declares f)) :=
            List.perm_middle
      _ |>.Perm (file :: rest) := (List.filter_append_perm declares rest).cons file
      _ |>.Perm p.serverFiles := hperm
  · have hrecords := records_afterServer
      { p with serverFiles := rest.filter declares ++ file :: rest.filter fun f => !declares f }
    rw [p.declarations_append, p.declarations_cons hfile] at hrecords
    refine Model.answer?_of_head (hrecords.head_of_leading ?_ ?_) haccepts
    · intro d hd
      obtain ⟨f, hf, heq⟩ := hid hd
      rw [(List.mem_filter.mp hf).2] at heq
      exact beq_iff_eq.mp heq.symm
    · intro d hd hdid
      obtain ⟨f, hf, heq⟩ := hid hd
      have hnot := (List.mem_filter.mp hf).2
      rw [heq, hdid] at hnot
      simp at hnot

/-- A declaration that is read last holds, so a question that does not accept it is not answered
by its class. -/
theorem exists_order_of_not_accepts {d : Component} (hd : d ∈ p.declarations) {r : Reference}
    (hrejects : r.accepts d = false) :
    ∃ files, files.Perm p.serverFiles ∧ ∀ i,
      ({ p with serverFiles := files } : Project).afterServer.answer? r = some i →
        i.target ≠ d.id := by
  obtain ⟨file, rest, hfile, hperm⟩ := exists_perm_of_mem_declarations hd
  refine ⟨rest ++ [file], (List.perm_append_singleton file rest).trans hperm, fun i hi hid => ?_⟩
  obtain ⟨e, he, haccepts, rfl⟩ := Model.exists_of_answer?_eq_some hi
  rw [r.target_answerOf] at hid
  have hget : _ = some e := Keyed.get?_eq_some_iff.mpr ⟨he, hid⟩
  have hlast : ({ p with serverFiles := rest ++ [file] } : Project).afterServer.get? d.id =
      some d := by
    rw [(records_afterServer _).get?_eq, p.declarations_append, p.declarations_cons hfile,
      latest?_append]
    simp [declarations, servers, Model.declared, latest?]
  rw [Model.get?] at hlast
  rw [hlast] at hget
  rw [← Option.some.inj hget, hrejects] at haccepts
  exact Bool.noConfusion haccepts

/-- **A question that is not decided** has different answers after the server files in different
orders, one of which is an answer at all. -/
theorem exists_answers_ne {r : Reference} (h : ¬r.Decided p.declarations) :
    ∃ files files' c, files.Perm p.serverFiles ∧ files'.Perm p.serverFiles ∧
      ({ p with serverFiles := files } : Project).afterServer.answer? r = some (r.answerOf c) ∧
      ({ p with serverFiles := files' } : Project).afterServer.answer? r ≠
        some (r.answerOf c) := by
  simp only [Reference.Decided, not_forall] at h
  obtain ⟨c, hc, haccepts, d, hd, hne⟩ := h
  obtain ⟨files, hfiles, hanswer⟩ := exists_order_of_accepts hc haccepts
  refine ⟨files, ?_⟩
  by_cases hdaccepts : r.accepts d = true
  · -- The question accepts two classes, and each of them can be the first one.
    have hid : d.id ≠ c.id := fun hid => hne ⟨fun _ => hid, fun _ => hdaccepts⟩
    obtain ⟨files', hfiles', hanswer'⟩ := exists_order_of_accepts hd hdaccepts
    refine ⟨files', c, hfiles, hfiles', hanswer, ?_⟩
    rw [hanswer']
    intro heq
    have htarget := congrArg Interaction.target (Option.some.inj heq)
    rw [r.target_answerOf, r.target_answerOf] at htarget
    exact hid htarget
  · -- The question accepts one declaration of the class, but not the one that is read last.
    have hid : d.id = c.id := by
      by_contra hid
      exact hne ⟨fun h => absurd h hdaccepts, fun h => absurd h hid⟩
    obtain ⟨files', hfiles', hanswer'⟩ :=
      exists_order_of_not_accepts hd (Bool.eq_false_iff.mpr hdaccepts)
    refine ⟨files', c, hfiles, hfiles', hanswer, fun heq => ?_⟩
    exact hanswer' _ heq ((r.target_answerOf c).trans hid.symm)

end Project

/-! ### Answers among the interactions -/

/-- The first letter of the label of an answer that names a route. -/
theorem head?_routeLabel (route : String) :
    ("GET /api/" ++ route).toList.head? = some 'G' := by
  rw [String.toList_append]
  rfl

/-- What is labelled as an answer is one. -/
theorem Interaction.isAnswer_of_label {i : Interaction}
    (h : (∃ route, i.label = "GET /api/" ++ route) ∨ i.label = "connects to") :
    i.isAnswer = true := by
  rcases h with ⟨route, hlabel⟩ | hlabel
  · have hword : ∀ word ∈ ["injects", "uses", "queries"], "GET /api/" ++ route ≠ word := by
      intro word hword heq
      have hfirst : word.toList.head? = some 'G' := by rw [← heq, head?_routeLabel]
      simp only [List.mem_cons, List.not_mem_nil, or_false] at hword
      rcases hword with rfl | rfl | rfl <;> exact absurd hfirst (by decide)
    simpa [isAnswer, hlabel] using hword
  · rw [isAnswer, hlabel]
    decide

/-- An answer is labelled as one. -/
theorem Reference.isAnswer_answerOf (r : Reference) (c : Component) :
    (r.answerOf c).isAnswer = true := by
  rw [answerOf]
  split
  · exact Interaction.isAnswer_of_label (Or.inl ⟨r.lookupRoute, rfl⟩)
  · exact Interaction.isAnswer_of_label (Or.inr rfl)

/-- What a server file says is labelled otherwise. -/
theorem isAnswer_of_mem_serverFacts {rules : Rules} {markers : List Recognition.Marker}
    {file : SourceFile} {i : Interaction} (h : i ∈ (serverFacts rules markers file).interactions) :
    i.isAnswer = false := by
  obtain ⟨name, -, ⟨dependency, -, rfl⟩ | rfl⟩ := exists_of_mem_interactions_serverFacts h <;> rfl

/-- The arrow to the database is labelled otherwise. -/
theorem Model.isAnswer_of_mem_databaseLink {rules : Rules} {m : Model} {i : Interaction}
    (h : i ∈ m.databaseLink rules) : i.isAnswer = false := by
  rw [databaseLink] at h
  split at h
  · obtain rfl := List.mem_singleton.mp h
    rfl
  · exact absurd h List.not_mem_nil

namespace Project

variable {p : Project} {o : Outcome} {files : List SourceFile}

/-- An answered question has an answer. -/
theorem isAnswer_of_mem_answers {m : Model} {i : Interaction}
    (h : i ∈ p.questions.filterMap m.answer?) : i.isAnswer = true := by
  obtain ⟨r, -, hr⟩ := List.mem_filterMap.mp h
  obtain ⟨c, -, -, rfl⟩ := Model.exists_of_answer?_eq_some hr
  exact r.isAnswer_answerOf c

/-- What the server files say is no answer. -/
theorem isAnswer_of_mem_servers {i : Interaction}
    (h : i ∈ p.servers.flatMap ServerFacts.interactions) : i.isAnswer = false := by
  obtain ⟨facts, hfacts, hi⟩ := List.mem_flatMap.mp h
  obtain ⟨file, -, rfl⟩ := List.mem_map.mp hfacts
  exact isAnswer_of_mem_serverFacts hi

/-- **The answers** of a project, among its interactions. -/
theorem filter_isAnswer_model (h : analyze p = .ok o) :
    o.model.interactions.filter Interaction.isAnswer =
      p.questions.filterMap p.afterServer.answer? := by
  have hservers : (p.servers.flatMap ServerFacts.interactions).filter Interaction.isAnswer = [] :=
    List.filter_eq_nil_iff.mpr fun i hi => by simp [isAnswer_of_mem_servers hi]
  have hanswers : (p.questions.filterMap p.afterServer.answer?).filter Interaction.isAnswer =
      p.questions.filterMap p.afterServer.answer? :=
    List.filter_eq_self.mpr fun i hi => isAnswer_of_mem_answers hi
  have hlink : (o.model.databaseLink p.rules).filter Interaction.isAnswer = [] :=
    List.filter_eq_nil_iff.mpr fun i hi => by simp [Model.isAnswer_of_mem_databaseLink hi]
  rw [interactions_model h, List.filter_append, List.filter_append, hservers, hanswers, hlink,
    List.nil_append, List.append_nil]

/-- The interactions of a project that are no answers. -/
theorem filter_not_isAnswer_model (h : analyze p = .ok o) :
    (o.model.interactions.filter fun i => !i.isAnswer) =
      p.servers.flatMap ServerFacts.interactions ++ o.model.databaseLink p.rules := by
  have hservers : ((p.servers.flatMap ServerFacts.interactions).filter fun i => !i.isAnswer) =
      p.servers.flatMap ServerFacts.interactions :=
    List.filter_eq_self.mpr fun i hi => by simp [isAnswer_of_mem_servers hi]
  have hanswers : ((p.questions.filterMap p.afterServer.answer?).filter fun i => !i.isAnswer) =
      [] := List.filter_eq_nil_iff.mpr fun i hi => by simp [isAnswer_of_mem_answers hi]
  have hlink : ((o.model.databaseLink p.rules).filter fun i => !i.isAnswer) =
      o.model.databaseLink p.rules :=
    List.filter_eq_self.mpr fun i hi => by simp [Model.isAnswer_of_mem_databaseLink hi]
  rw [interactions_model h, List.filter_append, List.filter_append, hservers, hanswers, hlink,
    List.append_nil]

/-! ### The outcome -/

/-- The order of the server files does not matter to whether an analysis succeeds. -/
theorem exists_analyze_serverFiles (h : analyze p = .ok o) (files : List SourceFile) :
    ∃ o', analyze { p with serverFiles := files } = .ok o' :=
  ({ p with serverFiles := files } : Project).exists_analyze_iff.mpr
    (p.exists_analyze_iff.mp ⟨o, h⟩)

/-- The identifiers of a project do not depend on the order of the server files. -/
theorem perm_keys_of_perm_serverFiles {o' : Outcome} (h : analyze p = .ok o)
    (h' : analyze { p with serverFiles := files } = .ok o') (hperm : files.Perm p.serverFiles) :
    o'.model.components.keys.Perm o.model.components.keys :=
  (records_model h').perm_keys (records_model h)
    (((perm_declarations hperm).append_right _).append_right _)

/-- If every question is decided, the order of the server files does not matter to any answer. -/
theorem perm_interactions_of_decided {o' : Outcome} (h : analyze p = .ok o)
    (h' : analyze { p with serverFiles := files } = .ok o') (hperm : files.Perm p.serverFiles)
    (hdecided : ∀ r ∈ p.questions, r.Decided p.declarations) :
    o'.model.interactions.Perm o.model.interactions := by
  have hanswers : p.questions.filterMap
      ({ p with serverFiles := files } : Project).afterServer.answer? =
        p.questions.filterMap p.afterServer.answer? := by
    refine List.filterMap_congr fun r hr => ?_
    exact (hdecided r hr).answer?_eq_of_perm (records_afterServer _) (records_afterServer _)
      (perm_declarations hperm)
  rw [interactions_model h, interactions_model h',
    Model.databaseLink_eq_of_perm (perm_keys_of_perm_serverFiles h h' hperm)]
  have hservers := (perm_servers hperm).flatMap_right ServerFacts.interactions
  exact (hservers.append (.of_eq hanswers)).append_right _

/-- If the order of the server files never matters to the interactions, every question is
decided. -/
theorem decided_of_perm_interactions (h : analyze p = .ok o)
    (hsame : ∀ files o', files.Perm p.serverFiles →
      analyze { p with serverFiles := files } = .ok o' →
        o'.model.interactions.Perm o.model.interactions)
    {r : Reference} (hr : r ∈ p.questions) : r.Decided p.declarations := by
  by_contra hnot
  obtain ⟨files, files', c, hfiles, hfiles', hanswer, hother⟩ := exists_answers_ne hnot
  obtain ⟨o₁, h₁⟩ := exists_analyze_serverFiles h files
  obtain ⟨o₂, h₂⟩ := exists_analyze_serverFiles h files'
  have hperm := ((hsame files o₁ hfiles h₁).trans (hsame files' o₂ hfiles' h₂).symm).filter
    Interaction.isAnswer
  rw [filter_isAnswer_model h₁, filter_isAnswer_model h₂] at hperm
  have hmem : r.answerOf c ∈ p.questions.filterMap
      ({ p with serverFiles := files' } : Project).afterServer.answer? :=
    hperm.subset (List.mem_filterMap.mpr ⟨r, hr, hanswer⟩)
  -- Only the question itself can have got this answer in the other order.
  obtain ⟨s, hs, hsanswer⟩ := List.mem_filterMap.mp hmem
  obtain ⟨d, -, -, heq⟩ := Model.exists_of_answer?_eq_some hsanswer
  obtain rfl := Reference.eq_of_answerOf_eq (asked_of_mem_questions hr)
    (asked_of_mem_questions hs) heq
  exact hother hsanswer

end Project

/-- **The order of the server files.** When an analysis succeeds, it succeeds with the server files
in any order, and gives the same identifiers, and, apart from the answers to the questions of the
pages, the same interactions, each as often. All interactions are the same in every order exactly
if every question of the pages is decided by what the server files declare. -/
theorem analyze_perm_serverFiles {p : Project} {o : Outcome} (h : analyze p = .ok o) :
    (∀ files, files.Perm p.serverFiles →
      ∃ o', analyze { p with serverFiles := files } = .ok o' ∧
        o'.model.components.keys.Perm o.model.components.keys ∧
        (o'.model.interactions.filter fun i => !i.isAnswer).Perm
          (o.model.interactions.filter fun i => !i.isAnswer)) ∧
      ((∀ files o', files.Perm p.serverFiles → analyze { p with serverFiles := files } = .ok o' →
          o'.model.interactions.Perm o.model.interactions) ↔
        ∀ r ∈ p.questions, r.Decided p.declarations) := by
  refine ⟨fun files hperm => ?_, fun hsame r hr => ?_, fun hdecided files o' hperm h' => ?_⟩
  · obtain ⟨o', h'⟩ := Project.exists_analyze_serverFiles h files
    have hkeys := Project.perm_keys_of_perm_serverFiles h h' hperm
    refine ⟨o', h', hkeys, ?_⟩
    rw [Project.filter_not_isAnswer_model h, Project.filter_not_isAnswer_model h',
      Model.databaseLink_eq_of_perm hkeys]
    exact ((Project.perm_servers hperm).flatMap_right _).append_right _
  · exact Project.decided_of_perm_interactions h hsame hr
  · exact Project.perm_interactions_of_decided h h' hperm hdecided

/-- A project with a controller, a gateway, and a page that asks for both. -/
def counter : Project where
  serverFiles :=
    [⟨"server/src/cart.controller.ts", "@Controller('cart')\nexport class CartController {}"⟩,
      ⟨"server/src/cart.gateway.ts", "@WebSocketGateway()\nexport class CartGateway {}"⟩]
  clientFiles :=
    [⟨"client/app/shop/page.tsx", "fetch(`$\x7bapiUrl\x7d/api/cart/7`); useSocket();"⟩]
  clientRoot := ⟨["work", "project"], "client/app"⟩

/-- Both questions of the counter are decided, and the opposite order gives the same two
answers. -/
theorem analyze_perm_serverFiles_counter :
    ∃ o o', analyze counter = .ok o ∧
      (∀ r ∈ counter.questions, r.Decided counter.declarations) ∧
      analyze { counter with serverFiles := counter.serverFiles.reverse } = .ok o' ∧
      o'.model.components.keys.Perm o.model.components.keys ∧
      o.model.interactions.length = 2 ∧
      o'.model.interactions.Perm o.model.interactions := by
  have hcount : (analyze counter).map (fun o => o.model.interactions.length) = .ok 2 := by
    decide +kernel
  have hdecided : ∀ r ∈ counter.questions, r.Decided counter.declarations := by decide +kernel
  obtain ⟨o, h⟩ := counter.exists_analyze_iff.mpr (by decide)
  obtain ⟨hany, hall⟩ := analyze_perm_serverFiles h
  obtain ⟨o', h', hkeys, -⟩ := hany _ (List.reverse_perm counter.serverFiles)
  rw [h] at hcount
  exact ⟨o, o', h, hdecided, h', hkeys, Except.ok.inj hcount,
    hall.mpr hdecided _ o' (List.reverse_perm counter.serverFiles) h'⟩

/-- A project with two controllers of one route, and a page that asks for it. -/
def rivals : Project where
  serverFiles :=
    [⟨"server/src/a.controller.ts", "@Controller('orders')\nexport class AController {}"⟩,
      ⟨"server/src/b.controller.ts", "@Controller('orders')\nexport class BController {}"⟩]
  clientFiles := [⟨"client/app/shop/page.tsx", "fetch(`$\x7bapiUrl\x7d/api/orders`)"⟩]
  clientRoot := ⟨["work", "project"], "client/app"⟩

/-- The page of the rivals is answered by the controller that is read first, so that the opposite
order gives another interaction. -/
theorem analyze_reverse_rivals :
    ∃ o o', rivals.serverFiles.reverse.Perm rivals.serverFiles ∧ analyze rivals = .ok o ∧
      analyze { rivals with serverFiles := rivals.serverFiles.reverse } = .ok o' ∧
      ¬o'.model.interactions.Perm o.model.interactions := by
  have hfirst : (analyze rivals).map (fun o => o.model.interactions) =
      .ok [{ source := "Page(shop)", target := "AController", label := "GET /api/orders" }] := by
    decide +kernel
  have hsecond : (analyze { rivals with serverFiles := rivals.serverFiles.reverse }).map
      (fun o => o.model.interactions) =
        .ok [{ source := "Page(shop)", target := "BController", label := "GET /api/orders" }] := by
    decide +kernel
  obtain ⟨o, h⟩ := rivals.exists_analyze_iff.mpr (by decide)
  obtain ⟨o', h'⟩ := Project.exists_analyze_serverFiles h rivals.serverFiles.reverse
  refine ⟨o, o', List.reverse_perm _, h, h', fun hperm => ?_⟩
  rw [h] at hfirst
  rw [h'] at hsecond
  have hlog : o.model.interactions = _ := Except.ok.inj hfirst
  have hlog' : o'.model.interactions = _ := Except.ok.inj hsecond
  rw [hlog, hlog', List.perm_singleton] at hperm
  exact absurd hperm (by decide)

end SystemSketch
