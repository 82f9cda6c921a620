import SystemSketch.Proofs.Distinct
import SystemSketch.Proofs.Failure
import SystemSketch.Proofs.Keyed
import SystemSketch.Rules.Overrides

/-!
# Which overrides are accepted

Rules are a table that has a value for each field, and an override that is accepted notes another
value in it (`override_of_fits`). So the rules that a mapping gives are its own table on top of the
default one, whatever the order of its entries, and a mapping is accepted exactly if each of its
values fits its field. Otherwise either some keys are unknown, and all of them are named, or the
first entry that does not fit is.

## Main definitions

* `Document.ofTable` — a mapping from texts.
* `Rules.toTable` — the values of the fields.
* `Rules.Fits`, `Rules.Misfit` — a value that a field may have, and what is said of one that it
  may not have.
* `Rules.IsFilled` — no text field is empty.
* `Rules.unknownNames` — the keys of a mapping that are no fields.
* `Rules.Outcome` — how a mapping may end.

## Main results

* `Rules.override_of_fits`, `Rules.override_of_misfit` — what one entry does.
* `Rules.outcome_ofDocument` — the ways in which a mapping ends.
* `Rules.isFilled_ofDocument`, `Rules.IsFilled.ofDocument_toDocument` — rules that a document gives
  have no empty text, and such rules come back from their own document.
* `Rules.overrides_exact` — which mappings are accepted, what they give, and what is said of the
  others.
-/

namespace SystemSketch

namespace Document

/-- The entry of a text. -/
def ofEntry (entry : String × Document) : Document × Document :=
  (.text entry.1, entry.2)

/-- The mapping from texts with the entries of a table. -/
def ofTable (entries : Table String Document) : Document :=
  .mapping (entries.toList.map ofEntry)

theorem asText?_eq_some_iff {value : Document} {text : String} :
    value.asText? = some text ↔ value = .text text := by
  cases value <;> simp [asText?]

/-- Documents can be listed as texts exactly if each of them is a text. -/
theorem mapM_asText?_eq_some_iff {items : List Document} {texts : List String} :
    items.mapM asText? = some texts ↔ items = texts.map .text := by
  induction items generalizing texts with
  | nil => cases texts <;> simp
  | cons item items ih =>
    simp only [List.mapM_cons, Option.bind_eq_bind, Option.bind_eq_some_iff, asText?_eq_some_iff,
      ih, Option.pure_def, Option.some.injEq]
    constructor
    · rintro ⟨text, rfl, texts, rfl, rfl⟩
      rfl
    · intro h
      cases texts with
      | nil => cases h
      | cons text texts =>
        obtain ⟨rfl, rfl⟩ := List.cons.inj h
        exact ⟨text, rfl, texts, rfl, rfl⟩

theorem asTexts?_eq_some_iff {value : Document} {texts : List String} :
    value.asTexts? = some texts ↔ value = .list (texts.map .text) := by
  cases value <;> simp [asTexts?, mapM_asText?_eq_some_iff]

end Document

/-! ### Fields by name -/

namespace TextField

theorem mem_all (field : TextField) : field ∈ all := by
  cases field <;> decide

theorem ofName?_name (field : TextField) : ofName? field.name = some field := by
  cases field <;> decide

theorem get_set (field : TextField) (value : String) (rules : Rules) (other : TextField) :
    other.get (field.set value rules) = if other = field then value else other.get rules := by
  cases field <;> cases other <;> rfl

end TextField

namespace ListField

theorem mem_all (field : ListField) : field ∈ all := by
  cases field <;> decide

theorem ofName?_name (field : ListField) : ofName? field.name = some field := by
  cases field <;> decide

/-- No list field bears the name of a text field. -/
theorem ofName?_textField (field : TextField) : ofName? field.name = none := by
  cases field <;> decide

theorem textField_get_set (field : ListField) (values : List String) (rules : Rules)
    (other : TextField) : other.get (field.set values rules) = other.get rules := by
  cases field <;> cases other <;> rfl

end ListField

namespace Rules

variable {source name : String} {value : Document} {rules : Rules} {e : RulesError}

theorem mem_fieldNames_iff :
    name ∈ fieldNames ↔
      (∃ field : TextField, field.name = name) ∨ ∃ field : ListField, field.name = name := by
  simp [fieldNames, TextField.mem_all, ListField.mem_all]

theorem nodup_fieldNames : fieldNames.Nodup := by
  decide

/-! ### Rules as a table -/

/-- The values of the fields, by their names. -/
def toTable (rules : Rules) : Table String Document where
  toList :=
    TextField.all.map (fun field => (field.name, .text (field.get rules))) ++
    ListField.all.map (fun field => (field.name, .list ((field.get rules).map .text)))
  nodup := by exact nodup_fieldNames

theorem toDocument_eq (rules : Rules) : rules.toDocument = .ofTable rules.toTable := rfl

theorem value?_toTable_text (rules : Rules) (field : TextField) :
    rules.toTable.value? field.name = some (.text (field.get rules)) := by
  cases field <;> rfl

theorem value?_toTable_texts (rules : Rules) (field : ListField) :
    rules.toTable.value? field.name = some (.list ((field.get rules).map .text)) := by
  cases field <;> rfl

theorem toTable_set_text (field : TextField) (value : String) (rules : Rules) :
    (field.set value rules).toTable = rules.toTable.set field.name (.text value) := by
  cases field <;> rfl

theorem toTable_set_texts (field : ListField) (values : List String) (rules : Rules) :
    (field.set values rules).toTable =
      rules.toTable.set field.name (.list (values.map .text)) := by
  cases field <;> rfl

/-- Rules are known by the values of their fields. -/
theorem ext_value? {other : Rules}
    (h : ∀ name ∈ fieldNames, rules.toTable.value? name = other.toTable.value? name) :
    rules = other := by
  have htext (field : TextField) : field.get rules = field.get other := by
    have hvalue := h field.name (mem_fieldNames_iff.mpr (.inl ⟨field, rfl⟩))
    rw [value?_toTable_text, value?_toTable_text] at hvalue
    exact Document.text.inj (Option.some.inj hvalue)
  have htexts (field : ListField) : field.get rules = field.get other := by
    have hvalue := h field.name (mem_fieldNames_iff.mpr (.inr ⟨field, rfl⟩))
    rw [value?_toTable_texts, value?_toTable_texts] at hvalue
    have hitems := Document.list.inj (Option.some.inj hvalue)
    exact List.map_injective_iff.mpr (fun _ _ => Document.text.inj) hitems
  cases rules
  cases other
  rw [Rules.mk.injEq]
  exact ⟨htext .persistenceService, htext .apiBaseVariable, htext .realtimeHook,
    htexts .pageFilenames, htexts .sourceExtensions, htexts .ignoreDirs, htexts .ignoreFiles⟩

/-! ### One entry -/

/-- A value that the field of a name may have: a list of texts, or a text that is not empty. -/
inductive Fits : String → Document → Prop
  | texts (field : ListField) (values : List String) : Fits field.name (.list (values.map .text))
  | text (field : TextField) {value : String} (h : value ≠ "") : Fits field.name (.text value)

/-- What is said of a value that the field of a name may not have. -/
inductive Misfit (source : String) : String → Document → RulesError → Prop
  | notTexts (field : ListField) {value : Document}
      (h : ∀ values : List String, value ≠ .list (values.map .text)) :
      Misfit source field.name value (.notTexts field.name source)
  | notText (field : TextField) {value : Document}
      (h : ∀ text : String, text ≠ "" → value ≠ .text text) :
      Misfit source field.name value (.notText field.name source)

/-- Every key that fits is that of a field. -/
theorem Fits.mem_fieldNames (h : Fits name value) : name ∈ fieldNames := by
  cases h with
  | texts field => exact mem_fieldNames_iff.mpr (.inr ⟨field, rfl⟩)
  | text field => exact mem_fieldNames_iff.mpr (.inl ⟨field, rfl⟩)

/-- What is said of a value names its key. -/
theorem Misfit.message_eq (h : Misfit source name value e) :
    ∃ complaint, e.message = "Rule '" ++ name ++ "' in " ++ source ++ complaint := by
  cases h with
  | notTexts => exact ⟨" must be a list of strings", rfl⟩
  | notText => exact ⟨" must be a non-empty string", rfl⟩

theorem Misfit.isRefusal (h : Misfit source name value e) : e.isRefusal = true := by
  cases h <;> rfl

/-- A value of a field fits it, or something is said of it. -/
theorem fits_or_misfit (source : String) (hname : name ∈ fieldNames) (value : Document) :
    Fits name value ∨ ∃ e, Misfit source name value e := by
  rcases mem_fieldNames_iff.mp hname with ⟨field, rfl⟩ | ⟨field, rfl⟩
  · by_cases h : ∃ text : String, text ≠ "" ∧ value = .text text
    · obtain ⟨text, hne, rfl⟩ := h
      exact .inl (.text field hne)
    · exact .inr ⟨_, .notText field fun text hne heq => h ⟨text, hne, heq⟩⟩
  · by_cases h : ∃ values : List String, value = .list (values.map .text)
    · obtain ⟨values, rfl⟩ := h
      exact .inl (.texts field values)
    · exact .inr ⟨_, .notTexts field fun values heq => h ⟨values, heq⟩⟩

/-- **An entry that fits** notes its value in the table of the rules. -/
theorem override_of_fits (source : String) (rules : Rules) (h : Fits name value) :
    ∃ rules', override source rules (.text name, value) = .ok rules' ∧
      rules'.toTable = rules.toTable.set name value := by
  cases h with
  | texts field values =>
    refine ⟨field.set values rules, ?_, toTable_set_texts field values rules⟩
    simp [override, Document.asText?, ListField.ofName?_name,
      Document.asTexts?_eq_some_iff.mpr rfl]
  | @text field text hne =>
    refine ⟨field.set text rules, ?_, toTable_set_text field text rules⟩
    simp [override, Document.asText?, ListField.ofName?_textField, TextField.ofName?_name, hne]

/-- **An entry that does not fit** is refused. -/
theorem override_of_misfit (rules : Rules) (h : Misfit source name value e) :
    override source rules (.text name, value) = .error e := by
  cases h with
  | notTexts field h =>
    have hnone : value.asTexts? = none :=
      Option.eq_none_iff_forall_ne_some.mpr fun values heq =>
        h values (Document.asTexts?_eq_some_iff.mp heq)
    simp [override, Document.asText?, ListField.ofName?_name, hnone]
  | notText field h =>
    simp only [override, Document.asText?, Option.getD_some, ListField.ofName?_textField,
      TextField.ofName?_name]
    split
    · next text heq =>
      have hempty : text = "" :=
        by_contra fun hne => h text hne (Document.asText?_eq_some_iff.mp heq)
      rw [hempty]
      rfl
    · rfl

/-! ### Rules without empty texts -/

/-- Whether no text field is empty. -/
def IsFilled (rules : Rules) : Prop :=
  ∀ field : TextField, field.get rules ≠ ""

theorem isFilled_default : IsFilled {} := by
  intro field
  cases field <;> decide

/-- An override leaves no text field empty. -/
theorem isFilled_override {rules' : Rules} {entry : Document × Document} (hfilled : rules.IsFilled)
    (h : override source rules entry = .ok rules') : rules'.IsFilled := by
  -- only the branch that sets a text field touches one, and it has checked the text before
  rw [override] at h
  split at h
  · split at h
    · cases h
      intro other
      rw [ListField.textField_get_set]
      exact hfilled other
    · cases h
  · split at h
    · cases h
      exact hfilled
    · split at h
      · split at h
        · cases h
        · next hne =>
          cases h
          intro other
          rw [TextField.get_set]
          split
          · exact fun hempty => hne (String.isEmpty_iff.mpr hempty)
          · exact hfilled other
      · cases h

/-- **Rules that a document gives** leave no text field empty. -/
theorem isFilled_ofDocument {document : Document} (h : ofDocument source document = .ok rules) :
    rules.IsFilled := by
  have hfold : ∀ (entries : List (Document × Document)) (start : Rules), start.IsFilled →
      entries.foldlM (override source) start = .ok rules → rules.IsFilled := by
    intro entries
    induction entries with
    | nil =>
      intro start hstart hok
      exact Except.ok.inj hok ▸ hstart
    | cons entry entries ih =>
      intro start hstart hok
      rw [List.foldlM_cons, bind_eq_ok_iff] at hok
      obtain ⟨next, hnext, hok⟩ := hok
      exact ih next (isFilled_override hstart hnext) hok
  rw [ofDocument.eq_def] at h
  split at h
  · split at h
    · exact hfold _ {} isFilled_default h
    · cases h
  · cases h

/-- The values of filled rules fit. -/
theorem IsFilled.fits (hfilled : rules.IsFilled) :
    ∀ entry ∈ rules.toTable.toList, Fits entry.1 entry.2 := by
  intro entry hentry
  rcases List.mem_append.mp hentry with hentry | hentry
  · obtain ⟨field, -, rfl⟩ := List.mem_map.mp hentry
    exact .text field (hfilled field)
  · obtain ⟨field, -, rfl⟩ := List.mem_map.mp hentry
    exact .texts field (field.get rules)

/-! ### Entries in order -/

variable {entries : List (String × Document)} {overrides : Table String Document}

/-- **Entries that fit** are noted one after the other. -/
theorem foldlM_of_fits (source : String) (rules : Rules)
    (h : ∀ entry ∈ entries, Fits entry.1 entry.2) :
    ∃ rules', (entries.map Document.ofEntry).foldlM (override source) rules = .ok rules' ∧
      rules'.toTable =
        entries.foldl (fun (t : Table String Document) entry => t.set entry.1 entry.2)
          rules.toTable := by
  induction entries generalizing rules with
  | nil => exact ⟨rules, rfl, rfl⟩
  | cons entry entries ih =>
    obtain ⟨next, hnext, htable⟩ := override_of_fits source rules (h entry List.mem_cons_self)
    obtain ⟨rules', hrules', hfold⟩ := ih next fun w hw => h w (List.mem_cons_of_mem entry hw)
    refine ⟨rules', ?_, ?_⟩
    · rw [List.map_cons, List.foldlM_cons, bind_eq_ok_iff]
      exact ⟨next, hnext, hrules'⟩
    · rw [hfold, htable, List.foldl_cons]

/-- Entries of fields all fit, or there is a first one that does not. -/
theorem fits_or_first_misfit (source : String) (h : ∀ entry ∈ entries, entry.1 ∈ fieldNames) :
    (∀ entry ∈ entries, Fits entry.1 entry.2) ∨
      ∃ before name value after e, entries = before ++ (name, value) :: after ∧
        (∀ entry ∈ before, Fits entry.1 entry.2) ∧ Misfit source name value e := by
  induction entries with
  | nil => exact .inl fun _ hentry => absurd hentry List.not_mem_nil
  | cons entry entries ih =>
    -- either the head is the first misfit itself, or it stands before that of the tail
    obtain ⟨name, value⟩ := entry
    rcases fits_or_misfit source (h _ List.mem_cons_self) value with hfits | ⟨e, hmisfit⟩
    · rcases ih fun w hw => h w (List.mem_cons_of_mem _ hw) with hall | hfirst
      · exact .inl (List.forall_mem_cons.mpr ⟨hfits, hall⟩)
      · obtain ⟨before, name', value', after, e, rfl, hbefore, hmisfit⟩ := hfirst
        exact .inr ⟨(name, value) :: before, name', value', after, e, rfl,
          List.forall_mem_cons.mpr ⟨hfits, hbefore⟩, hmisfit⟩
    · exact .inr ⟨[], name, value, entries, e, rfl, fun _ hw => absurd hw List.not_mem_nil,
        hmisfit⟩

/-- **The first entry that does not fit** is refused, whatever comes after it. -/
theorem foldlM_of_misfit {before after : List (String × Document)} (rules : Rules)
    (hbefore : ∀ entry ∈ before, Fits entry.1 entry.2) (h : Misfit source name value e) :
    ((before ++ (name, value) :: after).map Document.ofEntry).foldlM (override source) rules =
      .error e := by
  obtain ⟨next, hnext, -⟩ := foldlM_of_fits source rules hbefore
  rw [List.map_append, List.foldlM_append, bind_eq_error_iff]
  refine .inr ⟨next, hnext, ?_⟩
  rw [List.map_cons, List.foldlM_cons, bind_eq_error_iff]
  exact .inl (override_of_misfit next h)

/-! ### Mappings -/

/-- The keys of a mapping that are no fields. -/
def unknownNames (overrides : Table String Document) : List String :=
  overrides.keys.filter fun name => !fieldNames.contains name

theorem unknownNames_eq_nil_iff :
    unknownNames overrides = [] ↔ ∀ entry ∈ overrides.toList, entry.1 ∈ fieldNames := by
  simp [unknownNames, Keyed.keys]

/-- The unknown keys of a mapping as documents. -/
theorem filter_isKnown (overrides : Table String Document) :
    ((overrides.toList.map Document.ofEntry).map Prod.fst).filter (fun key => !isKnown key) =
      (unknownNames overrides).map .text := by
  rw [unknownNames, Keyed.keys, List.map_map, List.filter_map, List.filter_map, List.map_map]
  rfl

/-- Without unknown keys the entries are noted in order. -/
theorem ofDocument_of_known (source : String) (h : unknownNames overrides = []) :
    ofDocument source (.ofTable overrides) =
      (overrides.toList.map Document.ofEntry).foldlM (override source) {} := by
  rw [Document.ofTable, ofDocument, filter_isKnown, h]
  rfl

/-- **Unknown keys** are named together, in order. -/
theorem ofDocument_of_unknown (source : String) (h : unknownNames overrides ≠ []) :
    ofDocument source (.ofTable overrides) =
      .error (.unknownKeys source
        ((unknownNames overrides).mergeSort fun a b => !(b < a : Bool))) := by
  rw [Document.ofTable, ofDocument, filter_isKnown]
  split
  · next hnil => exact absurd (List.map_eq_nil_iff.mp hnil) h
  · rw [unknownKeysError, Document.mapM_asText?_eq_some_iff.mpr rfl]

/-- **A mapping that fits** gives rules, which have its values on top of the default ones. -/
theorem ofDocument_of_fits (source : String)
    (h : ∀ entry ∈ overrides.toList, Fits entry.1 entry.2) :
    ∃ rules, ofDocument source (.ofTable overrides) = .ok rules ∧
      ∀ name, rules.toTable.value? name =
        (overrides.value? name).or ((toTable {}).value? name) := by
  obtain ⟨rules, hok, htable⟩ := foldlM_of_fits source {} h
  have hknown : unknownNames overrides = [] :=
    unknownNames_eq_nil_iff.mpr fun entry hentry => (h entry hentry).mem_fieldNames
  refine ⟨rules, (ofDocument_of_known source hknown).trans hok, fun name => ?_⟩
  rw [htable, Table.value?_foldl_set]

/-- How the document of a table may end. -/
inductive Outcome (source : String) (overrides : Table String Document) :
    Except RulesError Rules → Prop
  /-- Every entry fits, and the rules have the values of the table on top of the default ones. -/
  | accepted {rules : Rules} (hfits : ∀ entry ∈ overrides.toList, Fits entry.1 entry.2)
      (hvalue : ∀ name, rules.toTable.value? name =
        (overrides.value? name).or ((toTable {}).value? name)) :
      Outcome source overrides (.ok rules)
  /-- Some keys are no fields, and all of them are named in order. -/
  | unknown {names : List String} (hunknown : unknownNames overrides ≠ [])
      (hperm : names.Perm (unknownNames overrides)) (hsorted : names.Pairwise (· < ·)) :
      Outcome source overrides (.error (.unknownKeys source names))
  /-- Every key is a field, and something is said of the first entry that does not fit. -/
  | misfit {name : String} {value : Document} {before after : List (String × Document)}
      {e : RulesError} (hknown : unknownNames overrides = [])
      (hentries : overrides.toList = before ++ (name, value) :: after)
      (hbefore : ∀ entry ∈ before, Fits entry.1 entry.2) (h : Misfit source name value e) :
      Outcome source overrides (.error e)

/-- **The document of a table** ends in one of these ways. -/
theorem outcome_ofDocument (source : String) (overrides : Table String Document) :
    Outcome source overrides (ofDocument source (.ofTable overrides)) := by
  by_cases hunknown : unknownNames overrides = []
  · rcases fits_or_first_misfit source (unknownNames_eq_nil_iff.mp hunknown) with hfits | hfirst
    · obtain ⟨rules, hok, hvalue⟩ := ofDocument_of_fits source hfits
      rw [hok]
      exact .accepted hfits hvalue
    · obtain ⟨before, name, value, after, e, hentries, hbefore, hmisfit⟩ := hfirst
      rw [ofDocument_of_known source hunknown, hentries, foldlM_of_misfit {} hbefore hmisfit]
      exact .misfit hunknown hentries hbefore hmisfit
  · rw [ofDocument_of_unknown source hunknown]
    have hnodup : (unknownNames overrides).Nodup := overrides.nodup_keys.filter _
    exact .unknown hunknown (List.mergeSort_perm _ _) (pairwise_mergeSort hnodup)

/-- **Rules come back** from their own document if no text field is empty. -/
theorem IsFilled.ofDocument_toDocument (h : rules.IsFilled) (source : String) :
    ofDocument source rules.toDocument = .ok rules := by
  obtain ⟨rules', hok, hvalue⟩ := ofDocument_of_fits source h.fits
  have hsame : rules' = rules := by
    refine ext_value? fun name hname => ?_
    rcases mem_fieldNames_iff.mp hname with ⟨field, rfl⟩ | ⟨field, rfl⟩
    · rw [hvalue, value?_toTable_text rules, Option.some_or]
    · rw [hvalue, value?_toTable_texts rules, Option.some_or]
  rw [toDocument_eq, hok, hsame]

/-- **The order of the entries** does not matter to a mapping that gives rules. -/
theorem ofDocument_of_perm {other : Table String Document} (h : other.toList.Perm overrides.toList)
    (hok : ofDocument source (.ofTable overrides) = .ok rules) :
    ofDocument source (.ofTable other) = .ok rules := by
  have houtcome := outcome_ofDocument source overrides
  rw [hok] at houtcome
  cases houtcome with
  | accepted hfits hvalue =>
    obtain ⟨rules', hok', hvalue'⟩ :=
      ofDocument_of_fits source fun entry hentry => hfits entry (h.mem_iff.mp hentry)
    have hsame : rules' = rules :=
      ext_value? fun name _ => by rw [hvalue, hvalue', Table.value?_eq_of_perm h]
    rw [hok', hsame]

/-- **Overrides are accepted exactly.** A mapping from texts gives rules exactly if each key is a
field and each value fits its field. The rules then have its values and otherwise the default ones,
in whatever order its entries come. If it gives no rules, they are refused: all unknown keys are
named in order, or, if there are none, the first key whose value does not fit. Rules that any
document gives come back from the document they make. -/
theorem overrides_exact (source : String) (overrides : Table String Document) :
    ((∃ rules, ofDocument source (.ofTable overrides) = .ok rules) ↔
      ∀ entry ∈ overrides.toList, entry.1 ∈ fieldNames ∧ Fits entry.1 entry.2) ∧
    (∀ rules, ofDocument source (.ofTable overrides) = .ok rules →
      (∀ field : TextField, .text (field.get rules) =
        (overrides.value? field.name).getD (.text (field.get {}))) ∧
      (∀ field : ListField, .list ((field.get rules).map .text) =
        (overrides.value? field.name).getD (.list ((field.get {}).map .text))) ∧
      ∀ other : Table String Document, other.toList.Perm overrides.toList →
        ofDocument source (.ofTable other) = .ok rules) ∧
    (∀ e, ofDocument source (.ofTable overrides) = .error e →
      e.isRefusal = true ∧
      (unknownNames overrides ≠ [] →
        ∃ names, names.Perm (unknownNames overrides) ∧ names.Pairwise (· < ·) ∧
          e.message = "Unknown rule keys in " ++ source ++ ": " ++
            String.intercalate ", " names) ∧
      (unknownNames overrides = [] →
        ∃ before name value after, overrides.toList = before ++ (name, value) :: after ∧
          (∀ entry ∈ before, Fits entry.1 entry.2) ∧ Misfit source name value e ∧
          ∃ complaint, e.message = "Rule '" ++ name ++ "' in " ++ source ++ complaint)) ∧
    ∀ document rules, ofDocument source document = .ok rules →
      ∀ source', ofDocument source' rules.toDocument = .ok rules := by
  have houtcome := outcome_ofDocument source overrides
  refine ⟨⟨?_, ?_⟩, fun rules hok => ?_, fun e herror => ?_, ?_⟩
  · rintro ⟨rules, hok⟩
    rw [hok] at houtcome
    cases houtcome with
    | accepted hfits _ =>
      exact fun entry hentry => ⟨(hfits entry hentry).mem_fieldNames, hfits entry hentry⟩
  · intro hfits
    obtain ⟨rules, hok, -⟩ := ofDocument_of_fits source fun entry hentry => (hfits entry hentry).2
    exact ⟨rules, hok⟩
  · rw [hok] at houtcome
    cases houtcome with
    | accepted _ hvalue =>
      refine ⟨fun field => ?_, fun field => ?_, fun other hperm => ofDocument_of_perm hperm hok⟩
      · have hfield := hvalue field.name
        rwa [value?_toTable_text, value?_toTable_text, Option.or_some, Option.some.injEq] at hfield
      · have hfield := hvalue field.name
        rwa [value?_toTable_texts, value?_toTable_texts, Option.or_some, Option.some.injEq]
          at hfield
  · rw [herror] at houtcome
    cases houtcome with
    | unknown hunknown hperm hsorted =>
      exact ⟨rfl, fun _ => ⟨_, hperm, hsorted, rfl⟩, fun hnil => absurd hnil hunknown⟩
    | misfit hknown hentries hbefore hmisfit =>
      exact ⟨hmisfit.isRefusal, fun hunknown => absurd hknown hunknown,
        fun _ => ⟨_, _, _, _, hentries, hbefore, hmisfit, hmisfit.message_eq⟩⟩
  · exact fun document rules hok source' =>
      (isFilled_ofDocument hok).ofDocument_toDocument source'

/-- Overrides of two fields. -/
def modestOverrides : Table String Document where
  toList := [("realtime_hook", .text "useFeed()"), ("ignore_dirs", .list [.text "dist"])]
  nodup := by decide

/-- Overrides with two values that do not fit. -/
def unfitOverrides : Table String Document where
  toList := [("ignore_dirs", .list []), ("realtime_hook", .text ""), ("ignore_files", .null)]
  nodup := by decide

/-- Overrides with two unknown keys, after a value that does not fit. -/
def strayOverrides : Table String Document where
  toList := [("realtime_hook", .text ""), ("title", .null), ("output", .bool true)]
  nodup := by decide

/-- The modest overrides are accepted in the other order too, and so are the rules that come of
them; the unfit ones are refused for the first value that does not fit, and the stray ones for their
unknown keys. -/
theorem overrides_exact_modest :
    ofDocument "<dict>" (.ofTable ⟨modestOverrides.toList.reverse, by decide⟩) =
      .ok { realtimeHook := "useFeed()", ignoreDirs := ["dist"] } ∧
    ofDocument "<dict>" (toDocument { realtimeHook := "useFeed()", ignoreDirs := ["dist"] }) =
      .ok { realtimeHook := "useFeed()", ignoreDirs := ["dist"] } ∧
    (∃ before name value after, unfitOverrides.toList = before ++ (name, value) :: after ∧
      (∀ entry ∈ before, Fits entry.1 entry.2) ∧
      Misfit "<dict>" name value (.notText "realtime_hook" "<dict>")) ∧
    ∃ names : List String, names.Perm ["title", "output"] ∧ names.Pairwise (· < ·) ∧
      "Unknown rule keys in <dict>: output, title" =
        "Unknown rule keys in <dict>: " ++ String.intercalate ", " names := by
  have hmodest : ofDocument "<dict>" (.ofTable modestOverrides) =
      .ok { realtimeHook := "useFeed()", ignoreDirs := ["dist"] } := rfl
  have hunfit : ofDocument "<dict>" (.ofTable unfitOverrides) =
      .error (.notText "realtime_hook" "<dict>") := rfl
  have hstray : ofDocument "<dict>" (.ofTable strayOverrides) =
      .error (.unknownKeys "<dict>" ["output", "title"]) := by
    have hnames : unknownNames strayOverrides = ["title", "output"] := rfl
    have hsorted : (["title", "output"].mergeSort fun a b => !(b < a : Bool)) =
        ["output", "title"] :=
      ((List.mergeSort_perm _ _).trans (.swap "output" "title" [])).eq_of_pairwise'
        (pairwise_mergeSort (by decide)) (by decide)
    rw [ofDocument_of_unknown "<dict>" (by decide), hnames, hsorted]
  obtain ⟨-, haccepted, -, hback⟩ := overrides_exact "<dict>" modestOverrides
  obtain ⟨-, -, hmisfit, -⟩ := overrides_exact "<dict>" unfitOverrides
  obtain ⟨-, -, hunknown, -⟩ := overrides_exact "<dict>" strayOverrides
  obtain ⟨before, name, value, after, hentries, hbefore, hfirst, -⟩ := (hmisfit _ hunfit).2.2 rfl
  obtain ⟨names, hperm, hsorted, hmessage⟩ := (hunknown _ hstray).2.1 (by decide)
  exact ⟨(haccepted _ hmodest).2.2 ⟨_, by decide⟩ (List.reverse_perm _),
    hback _ _ hmodest "<dict>", ⟨before, name, value, after, hentries, hbefore, hfirst⟩,
    names, hperm, hsorted, hmessage⟩

end Rules

end SystemSketch
