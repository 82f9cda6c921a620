import SystemSketch.Proofs.Rules.Overrides

/-!
# Keys that are no fields

The keys of a mapping may be of any kind, and a stray one is one that is no field. A mapping with
a stray key never gives rules. But only texts can be listed in a message: with a stray key of
another kind the listing itself fails, which is no refusal. Everything else that may be wrong with a
document is refused (`isRefusal_ofDocument_iff`).

## Main definitions

* `Document.keys` — the keys of a document, of which only a mapping has some.
* `Document.HasNamelessKey` — whether some key is no text.
* `Rules.strayKeys` — the keys that are no fields.

## Main results

* `Rules.isRefusal_unknownKeysError_iff` — stray keys are refused exactly if all of them are texts.
* `Rules.unknownKeysError_of_texts` — what is said of stray keys that are texts.
* `Rules.ofDocument_of_strayKeys` — a document with stray keys gives no rules.
* `Rules.isRefusal_ofDocument_iff` — when it is a refusal that a document gives no rules.
-/

namespace SystemSketch

namespace Document

/-- The keys of a document, of which only a mapping has some. -/
def keys : Document → List Document
  | mapping entries => entries.map Prod.fst
  | _ => []

/-- Whether some key of a document is no text. -/
def HasNamelessKey (document : Document) : Prop :=
  ∃ key ∈ document.keys, key.asText? = none

instance : DecidablePred HasNamelessKey := fun document =>
  inferInstanceAs (Decidable (∃ key ∈ document.keys, key.asText? = none))

variable {document : Document}

/-- A document that stands for nothing has no keys. -/
theorem keys_of_isFalsy (h : document.isFalsy = true) : document.keys = [] := by
  cases document with
  | mapping entries => rw [keys, List.isEmpty_iff.mp h, List.map_nil]
  | _ => rfl

/-- Some documents of a list are no texts, or the list is one of texts. -/
theorem exists_asText?_eq_none_iff {items : List Document} :
    (∃ item ∈ items, item.asText? = none) ↔ ∀ texts : List String, items ≠ texts.map .text := by
  constructor
  · rintro ⟨item, hitem, hnone⟩ texts rfl
    obtain ⟨text, -, rfl⟩ := List.mem_map.mp hitem
    cases hnone
  · intro hne
    induction items with
    | nil => exact absurd rfl (hne [])
    | cons item items ih =>
      cases htext : item.asText? with
      | none => exact ⟨item, List.mem_cons_self, htext⟩
      | some text =>
        have hrest : ∀ texts : List String, items ≠ texts.map .text := fun texts htexts =>
          hne (text :: texts) (by rw [asText?_eq_some_iff.mp htext, htexts, List.map_cons])
        obtain ⟨other, hother, hnone⟩ := ih hrest
        exact ⟨other, List.mem_cons_of_mem item hother, hnone⟩

end Document

namespace Rules

variable {source : String} {document key : Document} {rules : Rules} {e : RulesError}

/-! ### Stray keys -/

/-- The keys of a document that are no fields. -/
def strayKeys (document : Document) : List Document :=
  document.keys.filter fun key => !isKnown key

theorem isKnown_eq_true_iff : isKnown key = true ↔ ∃ name ∈ fieldNames, key = .text name := by
  cases key <;> simp [isKnown, Document.asText?]

theorem mem_strayKeys_iff :
    key ∈ strayKeys document ↔ key ∈ document.keys ∧ ∀ name ∈ fieldNames, key ≠ .text name := by
  rw [strayKeys, List.mem_filter, Bool.not_eq_true', ← Bool.not_eq_true, isKnown_eq_true_iff]
  simp

/-- A key that is no text is a stray one. -/
theorem hasNamelessKey_iff :
    document.HasNamelessKey ↔ ∃ key ∈ strayKeys document, key.asText? = none := by
  constructor
  · rintro ⟨key, hkey, hnone⟩
    refine ⟨key, mem_strayKeys_iff.mpr ⟨hkey, ?_⟩, hnone⟩
    rintro name - rfl
    cases hnone
  · rintro ⟨key, hkey, hnone⟩
    exact ⟨key, (mem_strayKeys_iff.mp hkey).1, hnone⟩

theorem strayKeys_ne_nil (h : document.HasNamelessKey) : strayKeys document ≠ [] := by
  obtain ⟨key, hkey, -⟩ := hasNamelessKey_iff.mp h
  exact List.ne_nil_of_mem hkey

/-- Among keys that are texts, the stray ones are those of no field. -/
theorem strayKeys_of_texts {names : List String} (h : document.keys = names.map .text) :
    strayKeys document = (names.filter fun name => !fieldNames.contains name).map .text := by
  rw [strayKeys, h, List.filter_map]
  rfl

/-- **Stray keys are refused** exactly if all of them are texts. -/
theorem isRefusal_unknownKeysError_iff (source : String) {keys : List Document} :
    (unknownKeysError source keys).isRefusal = true ↔ ¬∃ key ∈ keys, key.asText? = none := by
  rw [Document.exists_asText?_eq_none_iff, unknownKeysError]
  constructor
  · intro hrefusal hne
    have hnone : keys.mapM Document.asText? = none :=
      Option.eq_none_iff_forall_ne_some.mpr fun texts heq =>
        hne texts (Document.mapM_asText?_eq_some_iff.mp heq)
    rw [hnone] at hrefusal
    dsimp only at hrefusal
    split at hrefusal <;> cases hrefusal
  · intro hne
    obtain ⟨texts, htexts⟩ : ∃ texts : List String, keys = texts.map .text := by
      simpa only [ne_eq, not_forall, not_not] using hne
    rw [Document.mapM_asText?_eq_some_iff.mpr htexts]
    rfl

/-- Stray keys that are texts are listed, all of them and nothing else. -/
theorem unknownKeysError_of_texts (source : String) (names : List String) :
    ∃ listed : List String, listed.Perm names ∧
      unknownKeysError source (names.map .text) = .unknownKeys source listed := by
  refine ⟨_, List.mergeSort_perm names fun a b => !(b < a : Bool), ?_⟩
  rw [unknownKeysError, Document.mapM_asText?_eq_some_iff.mpr rfl]

/-! ### What a document gives -/

/-- What is said of the value of an entry is a refusal. -/
theorem isRefusal_override {entry : Document × Document}
    (h : override source rules entry = .error e) : e.isRefusal = true := by
  rw [override] at h
  split at h
  · split at h
    · cases h
    · cases h
      rfl
  · split at h
    · cases h
    · split at h
      · split at h
        · cases h
          rfl
        · cases h
      · cases h
        rfl

/-- **A document with stray keys** gives no rules. -/
theorem ofDocument_of_strayKeys (source : String) (h : strayKeys document ≠ []) :
    ofDocument source document = .error (unknownKeysError source (strayKeys document)) := by
  cases document with
  | mapping entries =>
    rw [ofDocument]
    split
    · next hnil => exact absurd hnil h
    · rfl
  | _ => exact absurd rfl h

/-- Without stray keys, a document that gives no rules is refused. -/
theorem isRefusal_of_strayKeys_eq_nil (h : strayKeys document = [])
    (herror : ofDocument source document = .error e) : e.isRefusal = true := by
  cases document with
  | mapping entries =>
    rw [ofDocument] at herror
    split at herror
    · obtain ⟨reached, entry, -, hentry⟩ := exists_of_foldlM_eq_error herror
      exact isRefusal_override hentry
    · next hne => exact absurd h hne
  | _ =>
    cases herror
    rfl

/-- **When it is a refusal** that a document gives no rules: exactly if all its keys are texts. -/
theorem isRefusal_ofDocument_iff (herror : ofDocument source document = .error e) :
    e.isRefusal = true ↔ ¬document.HasNamelessKey := by
  rw [hasNamelessKey_iff]
  by_cases hstray : strayKeys document = []
  · rw [hstray]
    exact iff_of_true (isRefusal_of_strayKeys_eq_nil hstray herror) (by simp)
  · obtain rfl := Except.error.inj ((ofDocument_of_strayKeys source hstray).symm.trans herror)
    exact isRefusal_unknownKeysError_iff source

/-- A document that stands for nothing has no stray keys, so it makes no difference here. -/
theorem ofOptionalDocument_of_strayKeys (source : String) (h : strayKeys document ≠ []) :
    ofOptionalDocument source document =
      .error (unknownKeysError source (strayKeys document)) := by
  have hkeys : document.isFalsy ≠ true := fun hfalsy =>
    h (by rw [strayKeys, Document.keys_of_isFalsy hfalsy, List.filter_nil])
  rw [ofOptionalDocument, if_neg hkeys, ofDocument_of_strayKeys source h]

theorem isRefusal_ofOptionalDocument_iff (herror : ofOptionalDocument source document = .error e) :
    e.isRefusal = true ↔ ¬document.HasNamelessKey := by
  rw [ofOptionalDocument] at herror
  split at herror
  · cases herror
  · exact isRefusal_ofDocument_iff herror

end Rules

end SystemSketch
