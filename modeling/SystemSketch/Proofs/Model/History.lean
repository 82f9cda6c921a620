import SystemSketch.Model.History
import SystemSketch.Proofs.Distinct
import SystemSketch.Proofs.Keyed

/-!
# A model and its history

The components that the operations of a run enter, one after the other, are the history of its
model. The roster and the collisions of the model are determined by the history: no operation
enters a component without leaving its trace, and none changes the roster in any other way.

## Main definitions

* `Operation.entered` — the components that an operation enters, in order.
* `latest?` — the component of an identifier that was entered last.
* `replacements` — the collisions of a history.
* `Model.Records` — a model holds what its history says.
* `Model.Extends` — the log and the collisions of a model only grow.

## Main results

* `Model.Records.perform` — one operation keeps the record, with what it enters.
* `Model.Records.after`, `Model.records_after` — after every sequence of operations the model holds
  what the history of the sequence says.
* `Model.Records.keys_prefix_after` — keys keep their places.
* `Model.extends_perform` — an operation only appends to the log and to the collisions.
* `Model.history_after` — both together, field by field.
-/

namespace SystemSketch

/-! ### The history of a sequence of operations -/

namespace Model

/-- The actor that uses the pages. -/
def userActor : Component :=
  { id := userId, kind := .user, label := "👤 User" }

/-- The actor that stores the data. -/
def databaseActor : Component :=
  { id := databaseId, kind := .database, label := "🗄️ Database" }

end Model

/-- The components that an operation enters, in order. An operation that fails enters none. -/
def Operation.entered : Operation → List Component
  | upsert component => [component]
  | append _ => []
  | pend _ => []
  | analyzeServer rules markers file => (serverFacts rules markers file).component?.toList
  | analyzePage root rules file =>
    match pageFacts root rules file with
    | .ok facts => [facts.page]
    | .error _ => []
  | addUser => [Model.userActor]
  | addDatabase => [Model.databaseActor]
  | linkPersistence _ => []
  | synthesize _ => [Model.userActor, Model.databaseActor]
  | resolvePending => []

/-- The component of an identifier that was entered last. -/
def latest? (history : List Component) (id : String) : Option Component :=
  (history.filter fun c => c.id == id).getLast?

/-- The collision of entering `c` after a history: none if its identifier is new. -/
def collisionWith? (history : List Component) (c : Component) : Option Collision :=
  (latest? history c.id).map fun old => ⟨old, c⟩

/-- The collisions of entering components one after the other, when those in `before` have been
entered already. -/
def replacementsFrom (before : List Component) : List Component → List Collision
  | [] => []
  | c :: rest => (collisionWith? before c).toList ++ replacementsFrom (before ++ [c]) rest

/-- The collisions of a history, in order: one for every component whose identifier was entered
before, with the latest component that had it. -/
def replacements (history : List Component) : List Collision :=
  replacementsFrom [] history

/-- The latest component of an identifier, when one more is entered. -/
theorem latest?_concat (history : List Component) (c : Component) (id : String) :
    latest? (history ++ [c]) id = if id = c.id then some c else latest? history id := by
  rw [latest?, List.filter_append]
  by_cases h : id = c.id
  · simp [h]
  · have hc : (c.id == id) = false := by simpa using fun e => h e.symm
    simp [h, hc, latest?]

/-- A latest component of an identifier bears it. -/
theorem id_of_latest? {history : List Component} {id : String} {c : Component}
    (h : latest? history id = some c) : c.id = id := by
  have hmem := List.mem_of_getLast? h
  rw [List.mem_filter] at hmem
  simpa using hmem.2

/-- Nothing is found exactly under the identifiers that no component of a history has. -/
theorem latest?_eq_none_iff {history : List Component} {id : String} :
    latest? history id = none ↔ id ∉ history.map Component.id := by
  simp [latest?]

/-- The later of two histories counts first. -/
theorem latest?_append (history more : List Component) (id : String) :
    latest? (history ++ more) id = (latest? more id).or (latest? history id) := by
  rw [latest?, List.filter_append, List.getLast?_append]
  rfl

/-- A latest component is one of its history. -/
theorem mem_of_latest? {history : List Component} {id : String} {c : Component}
    (h : latest? history id = some c) : c ∈ history :=
  (List.mem_filter.mp (List.mem_of_getLast? h)).1

/-- The collisions of a history in two parts. -/
theorem replacementsFrom_append (before as bs : List Component) :
    replacementsFrom before (as ++ bs) =
      replacementsFrom before as ++ replacementsFrom (before ++ as) bs := by
  induction as generalizing before with
  | nil => simp [replacementsFrom]
  | cons a rest ih =>
    rw [List.cons_append, replacementsFrom, replacementsFrom, ih, List.append_assoc,
      List.append_assoc, List.singleton_append]

/-- The collisions of a history, when one more component is entered. -/
theorem replacements_concat (history : List Component) (c : Component) :
    replacements (history ++ [c]) = replacements history ++ (collisionWith? history c).toList := by
  simp [replacements, replacementsFrom_append, replacementsFrom]

namespace Model

/-! ### What the operations leave alone -/

@[simp] theorem components_connect (m : Model) (r : Reference) :
    (m.connect r).components = m.components := by
  rw [connect]; split <;> rfl

@[simp] theorem collisions_connect (m : Model) (r : Reference) :
    (m.connect r).collisions = m.collisions := by
  rw [connect]; split <;> rfl

@[simp] theorem components_linkPersistence (rules : Rules) (m : Model) :
    (m.linkPersistence rules).components = m.components := by
  rw [linkPersistence]; split <;> rfl

@[simp] theorem collisions_linkPersistence (rules : Rules) (m : Model) :
    (m.linkPersistence rules).collisions = m.collisions := by
  rw [linkPersistence]; split <;> rfl

/-- Interactions are appended to the log, and nothing else happens. -/
theorem foldl_append (is : List Interaction) (m : Model) :
    is.foldl append m = { m with interactions := m.interactions ++ is } := by
  induction is generalizing m with
  | nil => simp
  | cons i rest ih => rw [List.foldl_cons, ih]; simp [append]

/-- Questions never touch the roster. -/
@[simp] theorem components_foldl_connect (rs : List Reference) (m : Model) :
    (rs.foldl connect m).components = m.components := by
  induction rs generalizing m with
  | nil => rfl
  | cons r rest ih => rw [List.foldl_cons, ih, components_connect]

/-- Questions never touch the collisions. -/
@[simp] theorem collisions_foldl_connect (rs : List Reference) (m : Model) :
    (rs.foldl connect m).collisions = m.collisions := by
  induction rs generalizing m with
  | nil => rfl
  | cons r rest ih => rw [List.foldl_cons, ih, collisions_connect]

/-! ### The record of a history -/

/-- A model **records** a history: its roster and its collisions are what the history says. -/
structure Records (m : Model) (history : List Component) : Prop where
  /-- The identifiers stand in order of their first entry. -/
  keys_eq : m.components.keys = (history.map Component.id).eraseDups
  /-- Every identifier has the component that was entered last. -/
  get?_eq : ∀ id, m.get? id = latest? history id
  /-- Every entry of a known identifier is a collision. -/
  collisions_eq : m.collisions = replacements history
  /-- Every entry is either a component of its own or a collision. -/
  length_eq : history.length = m.components.size + m.collisions.length

/-- The empty model records the empty history. -/
theorem records_empty : empty.Records [] where
  keys_eq := rfl
  get?_eq _ := rfl
  collisions_eq := rfl
  length_eq := rfl

/-- The record concerns the roster and the collisions only. -/
theorem Records.of_eq {m m' : Model} {history : List Component} (h : m.Records history)
    (hcomponents : m'.components = m.components) (hcollisions : m'.collisions = m.collisions) :
    m'.Records history where
  keys_eq := hcomponents ▸ h.keys_eq
  get?_eq id := by rw [get?, hcomponents]; exact h.get?_eq id
  collisions_eq := hcollisions ▸ h.collisions_eq
  length_eq := by rw [hcomponents, hcollisions]; exact h.length_eq

/-- The collisions after entering a component. -/
theorem Records.collisions_upsert {m : Model} {history : List Component} (h : m.Records history)
    (c : Component) :
    (m.upsert c).collisions = m.collisions ++ (collisionWith? history c).toList := by
  rw [collisionWith?, ← h.get?_eq, upsert]
  cases m.get? c.id <;> simp

/-- An identifier is known exactly when the history has a component of it. -/
theorem Records.mem_keys_iff {m : Model} {history : List Component} (h : m.Records history)
    {id : String} : id ∈ m.components.keys ↔ id ∈ history.map Component.id := by
  rw [h.keys_eq, List.mem_eraseDups]

/-- The components of a roster are in its history. -/
theorem Records.mem_history {m : Model} {history : List Component} (h : m.Records history)
    {c : Component} (hc : c ∈ m.components.toList) : c ∈ history := by
  have hget : m.get? c.id = some c := Keyed.get?_eq_some_iff.mpr ⟨hc, rfl⟩
  rw [h.get?_eq] at hget
  exact mem_of_latest? hget

/-- Models whose histories have the same components, in any order, have the same identifiers. -/
theorem Records.perm_keys {m m' : Model} {history history' : List Component}
    (h : m.Records history) (h' : m'.Records history') (hperm : history.Perm history') :
    m.components.keys.Perm m'.components.keys := by
  rw [List.perm_ext_iff_of_nodup m.components.nodup_keys m'.components.nodup_keys]
  intro id
  rw [h.mem_keys_iff, h'.mem_keys_iff, (hperm.map Component.id).mem_iff]

/-- **Entering a component** adds it to the record. -/
theorem Records.upsert {m : Model} {history : List Component} (h : m.Records history)
    (c : Component) : (m.upsert c).Records (history ++ [c]) where
  keys_eq := by
    show (m.components.insert c).keys = _
    rw [Keyed.keys_insert, List.map_append, List.map_singleton, eraseDups_concat, ← h.keys_eq]
    simp only [h.mem_keys_iff]
  get?_eq id := by
    show (m.components.insert c).get? id = _
    rw [Keyed.get?_insert, latest?_concat]
    split
    · rfl
    · exact h.get?_eq id
  collisions_eq := by
    rw [h.collisions_upsert, replacements_concat, h.collisions_eq]
  length_eq := by
    have hsize : (m.upsert c).components.size = _ := Keyed.size_insert c m.components
    have hlen := h.length_eq
    rw [h.collisions_upsert, hsize, List.length_append, List.length_append, List.length_singleton,
      collisionWith?, ← h.get?_eq]
    by_cases hmem : c.id ∈ m.components.keys
    · obtain ⟨old, hold⟩ : ∃ old, m.get? c.id = some old :=
        Option.ne_none_iff_exists'.mp fun hnone => Keyed.get?_eq_none_iff.mp hnone hmem
      simp only [hmem, if_true, hold, Option.map_some, Option.toList_some, List.length_singleton]
      omega
    · have hnone : m.get? c.id = none := Keyed.get?_eq_none_iff.mpr hmem
      simp only [hmem, if_false, hnone, Option.map_none, Option.toList_none, List.length_nil]
      omega

/-- A server file adds its component, if it has one. -/
theorem Records.recordServer {m : Model} {history : List Component} (h : m.Records history)
    (facts : ServerFacts) :
    (m.recordServer facts).Records (history ++ facts.component?.toList) := by
  have hany : (m.upsertAny facts.component?).Records (history ++ facts.component?.toList) := by
    cases facts.component? with
    | none => simpa [upsertAny] using h
    | some c => exact h.upsert c
  rw [Model.recordServer, foldl_append]
  exact hany.of_eq rfl rfl

/-- A client file adds its page. -/
theorem Records.recordPage {m : Model} {history : List Component} (h : m.Records history)
    (facts : PageFacts) : (m.recordPage facts).Records (history ++ [facts.page]) :=
  (h.upsert facts.page).of_eq (components_foldl_connect _ _) (collisions_foldl_connect _ _)

/-- Synthesis adds both actors. -/
theorem Records.synthesize {m : Model} {history : List Component} (h : m.Records history)
    (rules : Rules) :
    (m.synthesize rules).Records (history ++ [userActor, databaseActor]) := by
  have hboth : (m.addUser.addDatabase).Records (history ++ [userActor] ++ [databaseActor]) :=
    (h.upsert userActor).upsert databaseActor
  rw [List.append_assoc, List.singleton_append] at hboth
  exact hboth.of_eq (components_linkPersistence _ _) (collisions_linkPersistence _ _)

/-- **One operation** keeps the record, with the components that it enters. -/
theorem Records.perform {m : Model} {history : List Component} (h : m.Records history)
    (operation : Operation) : (m.perform operation).Records (history ++ operation.entered) := by
  cases operation with
  | upsert c => exact h.upsert c
  | append i =>
    rw [Operation.entered, List.append_nil]
    exact h.of_eq rfl rfl
  | pend r =>
    rw [Operation.entered, List.append_nil]
    exact h.of_eq rfl rfl
  | analyzeServer rules markers file => exact h.recordServer _
  | analyzePage root rules file =>
    simp only [Model.perform, Operation.apply, Operation.entered, analyzePage]
    cases pageFacts root rules file with
    | ok facts => exact h.recordPage facts
    | error e => simpa using h
  | addUser => exact h.upsert userActor
  | addDatabase => exact h.upsert databaseActor
  | linkPersistence rules =>
    rw [Operation.entered, List.append_nil]
    exact h.of_eq (components_linkPersistence rules m) (collisions_linkPersistence rules m)
  | synthesize rules => exact h.synthesize rules
  | resolvePending =>
    rw [Operation.entered, List.append_nil]
    exact h.of_eq rfl rfl

/-- **A run** adds to the record the components that its operations enter. -/
theorem Records.after {m : Model} {history : List Component} (h : m.Records history)
    (operations : List Operation) :
    (m.after operations).Records (history ++ operations.flatMap Operation.entered) := by
  induction operations generalizing m history with
  | nil => simpa [Model.after] using h
  | cons operation rest ih =>
    rw [List.flatMap_cons, ← List.append_assoc]
    exact ih (h.perform operation)

/-- **A whole run** records the components that its operations enter. -/
theorem records_after (operations : List Operation) :
    (empty.after operations).Records (operations.flatMap Operation.entered) :=
  records_empty.after operations

/-- **Keys keep their places**: a run puts new keys behind those that are there. -/
theorem Records.keys_prefix_after {m : Model} {history : List Component} (h : m.Records history)
    (operations : List Operation) :
    m.components.keys <+: (m.after operations).components.keys := by
  rw [h.keys_eq, (h.after operations).keys_eq, List.map_append, List.eraseDups_append]
  exact List.prefix_append _ _

/-! ### Growth -/

/-- A model **extends** another one if the log and the collisions of the latter are the beginning
of its own. -/
structure Extends (m m' : Model) : Prop where
  interactions : m.interactions <+: m'.interactions
  collisions : m.collisions <+: m'.collisions

theorem Extends.refl (m : Model) : m.Extends m :=
  ⟨List.prefix_rfl, List.prefix_rfl⟩

theorem Extends.trans {m₁ m₂ m₃ : Model} (h₁ : m₁.Extends m₂) (h₂ : m₂.Extends m₃) :
    m₁.Extends m₃ :=
  ⟨h₁.interactions.trans h₂.interactions, h₁.collisions.trans h₂.collisions⟩

/-- Entering a component adds at most a collision. -/
theorem extends_upsert (m : Model) (c : Component) : m.Extends (m.upsert c) where
  interactions := List.prefix_rfl
  collisions := by
    rw [upsert]
    cases m.get? c.id with
    | none => exact List.prefix_rfl
    | some old => exact List.prefix_append _ _

/-- Appending adds an interaction. -/
theorem extends_append (m : Model) (i : Interaction) : m.Extends (m.append i) :=
  ⟨List.prefix_append _ _, List.prefix_rfl⟩

/-- A question adds at most its answer. -/
theorem extends_connect (m : Model) (r : Reference) : m.Extends (m.connect r) := by
  rw [connect]
  split
  · exact extends_append m _
  · exact ⟨List.prefix_rfl, List.prefix_rfl⟩

/-- Steps that extend a model extend it when they are taken one after the other. -/
theorem extends_foldl {α : Type} {step : Model → α → Model}
    (h : ∀ (m : Model) (a : α), m.Extends (step m a))
    (as : List α) (m : Model) : m.Extends (as.foldl step m) := by
  induction as generalizing m with
  | nil => exact Extends.refl m
  | cons a rest ih => exact (h m a).trans (ih _)

/-- A server file adds its component and its interactions. -/
theorem extends_recordServer (m : Model) (facts : ServerFacts) :
    m.Extends (m.recordServer facts) := by
  refine Extends.trans ?_ (extends_foldl extends_append _ _)
  cases facts.component? with
  | none => exact Extends.refl m
  | some c => exact extends_upsert m c

/-- The arrow to the database is at most one more interaction. -/
theorem extends_linkPersistence (rules : Rules) (m : Model) :
    m.Extends (m.linkPersistence rules) := by
  rw [linkPersistence]
  split
  · exact extends_append m _
  · exact Extends.refl m

/-- **One operation** only appends to the log and to the collisions. -/
theorem extends_perform (m : Model) (operation : Operation) :
    m.Extends (m.perform operation) := by
  cases operation with
  | upsert c => exact extends_upsert m c
  | append i => exact extends_append m i
  | pend r => exact ⟨List.prefix_rfl, List.prefix_rfl⟩
  | analyzeServer rules markers file => exact extends_recordServer m _
  | analyzePage root rules file =>
    simp only [perform, Operation.apply, analyzePage]
    cases pageFacts root rules file with
    | ok facts => exact (extends_upsert m facts.page).trans (extends_foldl extends_connect _ _)
    | error e => exact Extends.refl m
  | addUser => exact extends_upsert m userActor
  | addDatabase => exact extends_upsert m databaseActor
  | linkPersistence rules => exact extends_linkPersistence rules m
  | synthesize rules =>
    exact ((extends_upsert m userActor).trans (extends_upsert _ databaseActor)).trans
      (extends_linkPersistence rules _)
  | resolvePending => exact ⟨List.prefix_append _ _, List.prefix_rfl⟩

/-- A run only appends to the log and to the collisions. -/
theorem extends_after (m : Model) (operations : List Operation) : m.Extends (m.after operations) :=
  extends_foldl extends_perform operations m

/-! ### The store over a whole run -/

/-- **The store keeps its history.** After any sequence of operations, failing ones included,
every key finds a component that bears it; the keys stand in order of their first entry, and each
has the component that was entered last; there is one remark for every entry of a known
identifier, in order, which names the kind and the origin of the replaced component and of the
one in its place, so that every entry is counted once among components and remarks; and every
further operation only appends to the log and to the remarks. -/
theorem history_after (operations : List Operation) :
    let m := empty.after operations
    let history := operations.flatMap Operation.entered
    (∀ id, (m.get? id).map Component.id = if m.has id then some id else none) ∧
    m.components.keys = (history.map Component.id).eraseDups ∧
    (∀ id, m.get? id = (history.filter fun c => c.id == id).getLast?) ∧
    (m.diagnostics = (replacements history).map fun c =>
      { level := "warning"
        code := "IDENTIFIER_COLLISION"
        message := "'" ++ c.replacement.id ++ "' (" ++ c.replaced.kind.name ++ ", " ++
          c.replaced.origin ++ ") replaced by " ++ c.replacement.kind.name ++ " from " ++
          c.replacement.origin
        objectId := c.replacement.id }) ∧
    history.length = m.components.size + m.diagnostics.length ∧
    ∀ operation, m.interactions <+: (m.perform operation).interactions ∧
      m.diagnostics <+: (m.perform operation).diagnostics := by
  intro m history
  have h : m.Records history := records_after operations
  refine ⟨fun id => ?_, h.keys_eq, h.get?_eq, ?_, ?_, fun operation => ?_⟩
  · by_cases hid : m.has id
    · rw [if_pos hid]
      obtain ⟨c, hc⟩ : ∃ c, m.get? id = some c :=
        Option.ne_none_iff_exists'.mp fun hnone =>
          Keyed.get?_eq_none_iff.mp hnone (Keyed.contains_iff.mp hid)
      rw [hc, Option.map_some, id_of_latest? (h.get?_eq id ▸ hc)]
    · rw [if_neg hid]
      have hnone : m.get? id = none :=
        Keyed.get?_eq_none_iff.mpr fun hmem => hid (Keyed.contains_iff.mpr hmem)
      rw [hnone, Option.map_none]
  · rw [diagnostics, h.collisions_eq]
    rfl
  · rw [diagnostics, List.length_map]
    exact h.length_eq
  · have hext := extends_perform m operation
    exact ⟨hext.interactions, hext.collisions.map _⟩

end Model

end SystemSketch
